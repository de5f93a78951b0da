import Mathlib.Data.Rat.Cast.Order
import Mathlib.Tactic.FieldSimp
import Mathlib.Tactic.NormNum
import PortableSql.Lexical.Literal
import PortableSql.Proofs.Number.Digits
import PortableSql.Proofs.Text.Joined

/-! What the literal of a length of time denotes. A length is kept as whole seconds below it and
nanoseconds to be added, and it is written as whole seconds toward zero and a fraction without a
sign. The two parts of the writing never differ in sign, so one sign in front is right for both:
the one of the whole seconds, or one of its own if there are none. Read as a decimal with nine
places the text gives back the length, and so two lengths never share a literal. -/

namespace PortableSql

open Number

section Decimal

variable {places : Nat}

/-- The number that a text denotes which has digits, a point and so many digits more. -/
def readUnsigned (places : Nat) (text : List Char) : Option ℚ :=
  match text.dropWhile Char.isDigit with
  | '.' :: fraction =>
    if fraction.length = places then do
      let units ← readDigits (text.takeWhile Char.isDigit)
      let parts ← readDigits fraction
      return (units : ℚ) + parts / 10 ^ places
    else none
  | _ => none

/-- The same with a minus sign in front, or without one. -/
def readDecimal (places : Nat) : List Char → Option ℚ
  | '-' :: text => (readUnsigned places text).map (- ·)
  | text => readUnsigned places text

theorem readUnsigned_append (m : Nat) {n : Nat} (h : (paddedChars places n).length = places) :
    readUnsigned places (Nat.toDigits 10 m ++ '.' :: paddedChars places n) =
      some ((m : ℚ) + n / 10 ^ places) := by
  have hdigits : ∀ c ∈ Nat.toDigits 10 m, c.isDigit = true := fun _ => isDigit_of_mem_toDigits
  have hstop : ∀ c ∈ ('.' :: paddedChars places n).head?, c.isDigit = false := by simp
  obtain ⟨htake, hdrop⟩ := Text.takeWhile_append_of_stop hdigits hstop
  rw [readUnsigned, hdrop, htake]
  simp only [h, if_true, readDigits_toDigits, readDigits_paddedChars]
  rfl

end Decimal

namespace TimeSpan

/-- The length in seconds. -/
def value (s : TimeSpan) : ℚ := s.seconds + s.nanoseconds / 10 ^ 9

theorem value_eq_totalNanos (s : TimeSpan) : s.value = s.totalNanos / 10 ^ 9 := by
  have hnanos : ((secondNanos : ℤ) : ℚ) = 10 ^ 9 := by norm_num [secondNanos]
  rw [value, totalNanos, Int.cast_add, Int.cast_mul, hnanos, Int.cast_natCast]
  field_simp

theorem value_lt_zero_iff (s : TimeSpan) : s.value < 0 ↔ s.totalNanos < 0 := by
  rw [value_eq_totalNanos, div_lt_iff₀ (by norm_num), zero_mul, Int.cast_lt_zero]

/-- The whole seconds and what is beside them make up the length. -/
theorem wholeSeconds_add_subsecondNanos (s : TimeSpan) :
    s.wholeSeconds * 1000000000 + s.subsecondNanos = s.totalNanos :=
  Int.tdiv_mul_add_tmod s.totalNanos secondNanos

theorem natAbs_subsecondNanos_lt (s : TimeSpan) : s.subsecondNanos.natAbs < 10 ^ 9 := by
  rw [subsecondNanos, Int.natAbs_tmod]
  exact Nat.mod_lt _ (by decide)

/-- What is beside the whole seconds has the sign of the length. -/
theorem subsecondNanos_sign (s : TimeSpan) :
    (0 ≤ s.totalNanos → 0 ≤ s.subsecondNanos) ∧ (s.totalNanos ≤ 0 → s.subsecondNanos ≤ 0) := by
  constructor
  · exact Int.tmod_nonneg _
  · intro h
    have hneg : 0 ≤ (-s.totalNanos).tmod secondNanos := Int.tmod_nonneg _ (by omega)
    rw [Int.neg_tmod] at hneg
    exact Int.neg_nonneg.1 hneg

/-- There is one sign, and it is the sign of the length. -/
theorem chars_eq (s : TimeSpan) :
    s.chars = (if s.totalNanos < 0 then ['-'] else []) ++
      (Nat.toDigits 10 s.wholeSeconds.natAbs ++ '.' :: paddedChars 9 s.subsecondNanos.natAbs) := by
  have hsum := s.wholeSeconds_add_subsecondNanos
  have hsmall := s.natAbs_subsecondNanos_lt
  obtain ⟨hnonneg, hnonpos⟩ := s.subsecondNanos_sign
  have hsign : (if s.wholeSeconds = 0 ∧ s.subsecondNanos < 0 then ['-'] else []) ++
      (if s.wholeSeconds < 0 then ['-'] else []) = if s.totalNanos < 0 then ['-'] else [] := by
    split_ifs <;> first | rfl | omega
  rw [chars, toList_toString_int, ← hsign]
  simp only [List.append_assoc]

theorem natAbs_parts (s : TimeSpan) :
    s.wholeSeconds.natAbs * 1000000000 + s.subsecondNanos.natAbs = s.totalNanos.natAbs := by
  have hsum := s.wholeSeconds_add_subsecondNanos
  have hsmall := s.natAbs_subsecondNanos_lt
  obtain ⟨hnonneg, hnonpos⟩ := s.subsecondNanos_sign
  omega

/-- Without the sign the text denotes the length without its sign. -/
theorem readUnsigned_chars (s : TimeSpan) :
    readUnsigned 9 (Nat.toDigits 10 s.wholeSeconds.natAbs ++
        '.' :: paddedChars 9 s.subsecondNanos.natAbs) =
      some ((s.totalNanos.natAbs : ℚ) / 10 ^ 9) := by
  have hlength := length_paddedChars (by decide) s.natAbs_subsecondNanos_lt
  have hbillion : ((1000000000 : ℕ) : ℚ) = 10 ^ 9 := by norm_num
  rw [readUnsigned_append _ hlength, ← s.natAbs_parts, Nat.cast_add, Nat.cast_mul, hbillion,
    Option.some_inj]
  field_simp

theorem readDecimal_chars (s : TimeSpan) : readDecimal 9 s.chars = some s.value := by
  rw [chars_eq, value_eq_totalNanos]
  by_cases h : s.totalNanos < 0
  · have hneg : (s.totalNanos.natAbs : ℤ) = -s.totalNanos := by omega
    rw [if_pos h, List.singleton_append, readDecimal, readUnsigned_chars, Option.map_some,
      ← Int.cast_natCast, hneg, Int.cast_neg, neg_div, neg_neg]
  · have hpos : (s.totalNanos.natAbs : ℤ) = s.totalNanos := by omega
    obtain ⟨c, digits, hdigits⟩ :=
      List.exists_cons_of_ne_nil (Nat.toDigits_ne_nil (n := s.wholeSeconds.natAbs) (b := 10))
    have hc : c ≠ '-' := by
      rintro rfl
      have hdigit := isDigit_of_mem_toDigits (hdigits ▸ List.mem_cons_self)
      exact absurd hdigit (by decide)
    have hunsigned := s.readUnsigned_chars
    rw [hdigits, List.cons_append] at hunsigned ⊢
    rw [if_neg h, List.nil_append, readDecimal, hunsigned, ← Int.cast_natCast, hpos]
    rintro text heq
    exact hc (List.cons.inj heq).1

theorem minus_mem_chars_iff (s : TimeSpan) : '-' ∈ s.chars ↔ s.value < 0 := by
  have hdigits : ∀ c ∈ Nat.toDigits 10 s.wholeSeconds.natAbs ++
      '.' :: paddedChars 9 s.subsecondNanos.natAbs, c ≠ '-' := by
    rintro c hc rfl
    rcases List.mem_append.1 hc with hc | hc
    · exact absurd (isDigit_of_mem_toDigits hc) (by decide)
    · rcases List.mem_cons.1 hc with hc | hc
      · exact absurd hc (by decide)
      · exact absurd (isDigit_of_mem_paddedChars hc) (by decide)
  rw [chars_eq, value_lt_zero_iff, List.mem_append]
  constructor
  · rintro (h | h)
    · by_contra hneg
      rw [if_neg hneg] at h
      cases h
    · exact absurd rfl (hdigits _ h)
  · intro h
    rw [if_pos h]
    exact .inl List.mem_cons_self

variable {s t : TimeSpan}

/-- Seconds below and nanoseconds to be added are told apart by their sum. -/
theorem eq_of_value_eq (hs : s.nanoseconds < secondNanos) (ht : t.nanoseconds < secondNanos)
    (h : s.value = t.value) : s = t := by
  have htotal : s.totalNanos = t.totalNanos := by
    rw [value_eq_totalNanos, value_eq_totalNanos, div_left_inj' (by norm_num), Int.cast_inj] at h
    exact h
  obtain ⟨seconds, nanos⟩ := s
  obtain ⟨seconds', nanos'⟩ := t
  simp only [totalNanos, secondNanos] at htotal hs ht
  have hseconds : seconds = seconds' := by omega
  have hnanos : nanos = nanos' := by omega
  rw [hseconds, hnanos]

theorem eq_of_interval_eq (hs : s.nanoseconds < secondNanos) (ht : t.nanoseconds < secondNanos)
    (h : Literal.interval s = Literal.interval t) : s = t := by
  have hchars : s.chars = t.chars := by
    rw [Literal.interval, Literal.interval, String.append_left_inj, String.append_right_inj] at h
    exact String.ofList_inj.1 h
  have hread := s.readDecimal_chars
  rw [hchars, t.readDecimal_chars, Option.some_inj] at hread
  exact eq_of_value_eq hs ht hread.symm

end TimeSpan

/-- The literal of a length of time holds a decimal with nine places. It denotes the length
exactly, and it has a minus sign exactly if the length is negative. No other length has the same
literal. -/
theorem interval_denotes_span {s : TimeSpan} (hs : s.nanoseconds < secondNanos) :
    (∃ number, Literal.interval s = "interval '" ++ String.ofList number ++ "' second" ∧
      readDecimal 9 number = some ((s.seconds : ℚ) + s.nanoseconds / 10 ^ 9) ∧
      ('-' ∈ number ↔ (s.seconds : ℚ) + s.nanoseconds / 10 ^ 9 < 0)) ∧
    ∀ t : TimeSpan, t.nanoseconds < secondNanos →
      Literal.interval t = Literal.interval s → t = s :=
  ⟨⟨s.chars, rfl, s.readDecimal_chars, s.minus_mem_chars_iff⟩,
    fun _ ht h => TimeSpan.eq_of_interval_eq ht hs h⟩

/-- Half a second less than none: there are no whole seconds to bring the sign. -/
theorem negative_fraction_keeps_sign :
    let s : TimeSpan := ⟨-1, 500000000⟩
    s.nanoseconds < secondNanos ∧ Literal.interval s = "interval '-0.500000000' second" ∧
      readDecimal 9 "-0.500000000".toList = some (-1 / 2) := by
  intro s
  have hs : s.nanoseconds < secondNanos := by decide
  have hliteral : Literal.interval s = "interval '-0.500000000' second" := by decide +kernel
  obtain ⟨⟨number, htext, hread, -⟩, -⟩ := interval_denotes_span hs
  rw [hliteral] at htext
  have hnumber : number = "-0.500000000".toList := by
    have hparts : "interval '-0.500000000' second" = "interval '" ++
        String.ofList "-0.500000000".toList ++ "' second" := by decide +kernel
    rw [hparts, String.append_left_inj, String.append_right_inj] at htext
    exact (String.ofList_inj.1 htext).symm
  refine ⟨hs, hliteral, ?_⟩
  rw [← hnumber, hread]
  norm_num [s]

end PortableSql
