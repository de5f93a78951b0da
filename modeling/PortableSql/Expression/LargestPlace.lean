import PortableSql.Expression.Ordinal
import PortableSql.Text.Utf8

/-! The largest place of a pattern, found by a search through its bytes. The search stops at
question marks only, and cuts out the digits behind each one as a text. Both are characters of
ASCII, whose bytes stand for nothing else, so the search sees the question marks of the pattern
and no others, and it never cuts a character. -/

namespace PortableSql

open Text

/-- The byte of a question mark. -/
def markByte : UInt8 := 63

/-- Is it the byte of a digit? -/
def isDigitByte (b : UInt8) : Bool := 48 ≤ b && b ≤ 57

/-- The largest number behind a question mark in some bytes, or the one before them if that is
larger. The digits are cut out of the bytes as a text, which fails within a character. -/
def largestFrom? (largest : Nat) : List UInt8 → Option Nat
  | [] => some largest
  | b :: rest =>
    if b = markByte then
      let digits := rest.takeWhile isDigitByte
      let after := rest.dropWhile isDigitByte
      if atCharacter rest && atCharacter after then
        let found := wordOfDigits? (digits.map fun d => Char.ofNat d.toNat)
        largestFrom? (found.elim largest (max largest)) after
      else none
    else largestFrom? largest rest
termination_by bytes => bytes.length
decreasing_by
  · exact Nat.lt_succ_of_le (List.dropWhile_sublist _).length_le
  · exact Nat.lt_succ_self _

variable {c : Char} {b : UInt8}

theorem largestFrom?_append {bytes : List UInt8} (h : ∀ b ∈ bytes, b ≠ markByte) (largest : Nat)
    (rest : List UInt8) : largestFrom? largest (bytes ++ rest) = largestFrom? largest rest := by
  induction bytes with
  | nil => rfl
  | cons b bytes ih =>
    obtain ⟨hb, hbytes⟩ := List.forall_mem_cons.1 h
    rw [List.cons_append, largestFrom?, if_neg hb, ih hbytes]

theorem ne_markByte_of_le (h : 0x80 ≤ b) : b ≠ markByte := by
  rintro rfl
  exact absurd h (by decide)

/-- No byte of another character is that of a question mark. -/
theorem largestFrom?_text (h : c ≠ '?') (largest : Nat) (s : List Char) :
    largestFrom? largest (utf8 (c :: s)) = largestFrom? largest (utf8 s) := by
  by_cases hascii : c.toNat < 0x80
  · have hbyte : UInt8.ofNat c.toNat ≠ markByte := by
      intro heq
      have hcode : c.toNat = '?'.toNat := by
        rw [← toNat_ofNat_toNat hascii, heq]
        rfl
      exact h (Char.toNat_inj.1 hcode)
    rw [utf8_cons_of_lt hascii, largestFrom?, if_neg hbyte]
  · obtain ⟨first, others, heq, -, hbytes⟩ :=
      exists_utf8_cons_of_le (Nat.le_of_not_lt hascii) s
    rw [heq, largestFrom?_append fun b hb => ne_markByte_of_le (hbytes b hb)]

theorem isDigitByte_ofNat (h : c.toNat < 0x80) :
    isDigitByte (UInt8.ofNat c.toNat) = c.isDigit := by
  rw [Bool.eq_iff_iff, Char.isDigit_iff_toNat]
  simp only [isDigitByte, Bool.and_eq_true, decide_eq_true_eq, UInt8.le_iff_toNat_le,
    toNat_ofNat_toNat h]
  rfl

theorem isDigitByte_of_le (h : 0x80 ≤ b) : isDigitByte b = false := by
  have hlt : ¬ b ≤ 57 := UInt8.not_le.2 (UInt8.lt_of_lt_of_le (by decide) h)
  rw [isDigitByte, decide_eq_false hlt, Bool.and_false]

theorem lt_of_isDigit (h : c.isDigit = true) : c.toNat < 0x80 :=
  Nat.lt_of_le_of_lt (Char.isDigit_iff_toNat.1 h).2 (by decide)

/-- A character that is no digit does not begin with the byte of one. -/
theorem exists_utf8_cons_of_not_isDigit (h : c.isDigit = false) (s : List Char) :
    ∃ first others, utf8 (c :: s) = first :: others ∧ isDigitByte first = false := by
  by_cases hascii : c.toNat < 0x80
  · exact ⟨_, _, utf8_cons_of_lt hascii s, (isDigitByte_ofNat hascii).trans h⟩
  · obtain ⟨first, others, heq, -, hbytes⟩ :=
      exists_utf8_cons_of_le (Nat.le_of_not_lt hascii) s
    exact ⟨_, _, heq, isDigitByte_of_le (hbytes first List.mem_cons_self)⟩

/-- The bytes of digits that bytes begin with are those of the digits that the text begins with. -/
theorem span_utf8 (s : List Char) :
    (utf8 s).takeWhile isDigitByte = utf8 (s.takeWhile Char.isDigit) ∧
      (utf8 s).dropWhile isDigitByte = utf8 (s.dropWhile Char.isDigit) := by
  induction s with
  | nil => exact ⟨rfl, rfl⟩
  | cons c s ih =>
    cases hc : c.isDigit with
    | true =>
      have hascii := lt_of_isDigit hc
      have hbyte := (isDigitByte_ofNat hascii).trans hc
      simp [utf8_cons_of_lt hascii, hbyte, hc, ih]
    | false =>
      obtain ⟨first, others, heq, hfirst⟩ := exists_utf8_cons_of_not_isDigit hc s
      rw [List.takeWhile_cons_of_neg (by simp [hc]), List.dropWhile_cons_of_neg (by simp [hc]), heq]
      simp [hfirst, utf8]

/-- Behind a question mark the digits are read, and the search goes on behind them. -/
theorem largestFrom?_mark (largest : Nat) (s : List Char) :
    largestFrom? largest (utf8 ('?' :: s)) =
      largestFrom? ((wordOfDigits? (s.takeWhile Char.isDigit)).elim largest (max largest))
        (utf8 (s.dropWhile Char.isDigit)) := by
  have hmark : utf8 ('?' :: s) = markByte :: utf8 s := utf8_cons_of_lt (by decide) s
  have hdigits : ∀ c ∈ s.takeWhile Char.isDigit, c.toNat < 0x80 := fun c hc =>
    lt_of_isDigit (List.all_eq_true.1 List.all_takeWhile c hc)
  rw [hmark, largestFrom?, if_pos rfl, (span_utf8 s).1, (span_utf8 s).2]
  simp only [map_ofNat_utf8 hdigits, atCharacter_utf8, Bool.and_self, if_true]

/-- The bytes of a text are cut only where characters begin. -/
theorem isSome_largestFrom? (largest : Nat) (s : List Char) :
    (largestFrom? largest (utf8 s)).isSome = true := by
  match s with
  | [] => rw [utf8, List.flatMap_nil, largestFrom?, Option.isSome_some]
  | c :: s =>
    by_cases hc : c = '?'
    · rw [hc, largestFrom?_mark]
      exact isSome_largestFrom? _ _
    · rw [largestFrom?_text hc]
      exact isSome_largestFrom? _ _
termination_by s.length
decreasing_by
  · exact Nat.lt_succ_of_le (List.dropWhile_sublist _).length_le
  · exact Nat.lt_succ_self _

/-- The largest live place of a pattern, zero if there is none. -/
def largestOrdinal (pattern : String) : Nat :=
  (largestFrom? 0 pattern.toUTF8.data.toList).get (by
    rw [data_toUTF8]
    exact isSome_largestFrom? 0 pattern.toList)

end PortableSql
