import Mathlib.Data.List.Lattice
import PortableSql.Text.Blank
import PortableSql.Text.Case

/-! Texts in small letters. Lower-casing writes only characters that it leaves alone in any
place, so it changes nothing the second time. It never loses a character, and it keeps
blanks and letters apart, so a text that is trimmed stays trimmed. What this asks of
single letters is read off the case table: its capitals, their small letters and the
blanks are compared as sets of code points, each kept as the bits of one number. -/

namespace PortableSql.Text

section CodePoints

/-- The number whose bits are the members of a list. -/
def bits (codes : List Nat) : Nat := codes.foldr (fun n rest => 1 <<< n ||| rest) 0

theorem testBit_bits (codes : List Nat) (n : Nat) :
    (bits codes).testBit n = decide (n ∈ codes) := by
  induction codes with
  | nil => simp [bits]
  | cons m codes ih =>
    have hone : (1 <<< m).testBit n = decide (n = m) := by
      rw [Nat.one_shiftLeft, Nat.testBit_two_pow]
      exact decide_eq_decide.2 eq_comm
    rw [bits, List.foldr_cons, Nat.testBit_or, hone]
    change (decide (n = m) || (bits codes).testBit n) = _
    rw [ih]
    simp

/-- Lists without a common bit have no common member. -/
theorem disjoint_of_bits {codes others : List Nat} (h : bits codes &&& bits others = 0) :
    codes.Disjoint others := by
  intro n hn hother
  have hbit : (bits codes &&& bits others).testBit n = true := by
    rw [Nat.testBit_and, testBit_bits, testBit_bits]
    simp [hn, hother]
  simp [h] at hbit

namespace CaseRun

/-- The capitals of a run. -/
def capitals (r : CaseRun) : List Nat :=
  List.range' r.first ((r.last - r.first) / r.step + 1) r.step

/-- Their small letters. -/
def smallLetters (r : CaseRun) : List Nat :=
  r.capitals.map fun n : Nat => ((n : Int) + r.offset).toNat

theorem mem_capitals_of_covers {r : CaseRun} {n : Nat} (h : r.covers n = true) :
    n ∈ r.capitals := by
  simp only [covers, Bool.and_eq_true, decide_eq_true_eq, beq_iff_eq] at h
  obtain ⟨⟨hfirst, hlast⟩, hstep⟩ := h
  have hdvd : r.step * ((n - r.first) / r.step) = n - r.first :=
    Nat.mul_div_cancel' (Nat.dvd_of_mod_eq_zero hstep)
  have hle : (n - r.first) / r.step ≤ (r.last - r.first) / r.step :=
    Nat.div_le_div_right (by omega)
  exact List.mem_range'.2 ⟨(n - r.first) / r.step, by omega, by omega⟩

end CaseRun

/-- The capitals of ASCII, the two that need more than one fixed letter, and those of the table. -/
def capitals : List Nat := List.range' 65 26 ++ [304, 931] ++ caseRuns.flatMap CaseRun.capitals

/-- The small letters of the table. -/
def smallLetters : List Nat := caseRuns.flatMap CaseRun.smallLetters

def blanks : List Nat := blankSpans.flatMap fun s => List.range' s.1 (s.2 + 1 - s.1)

theorem capitals_disjoint_smallLetters : capitals.Disjoint smallLetters :=
  disjoint_of_bits (by decide +kernel)

theorem blanks_disjoint_capitals : blanks.Disjoint capitals :=
  disjoint_of_bits (by decide +kernel)

theorem blanks_disjoint_smallLetters : blanks.Disjoint smallLetters :=
  disjoint_of_bits (by decide +kernel)

theorem isBlank_iff {c : Char} : isBlank c = true ↔ c.toNat ∈ blanks := by
  rw [isBlank, inSpans_iff, blanks, List.mem_flatMap]
  refine exists_congr fun s => and_congr_right fun _ => ?_
  rw [List.mem_range'_1]
  omega

end CodePoints

section Letters

variable {c d : Char} {before after : List Char}

/-- Lower-casing leaves the character alone wherever it stands. -/
def IsSmall (c : Char) : Prop := c ≠ 'Σ' ∧ c ≠ 'İ' ∧ smallLetter c = c

instance : DecidablePred IsSmall := fun _ => inferInstanceAs (Decidable (_ ∧ _ ∧ _))

/-- A letter of ASCII is made small, a capital of the table moves to its small letter, and any
other character stays. -/
theorem smallLetter_cases (c : Char) :
    (c.toNat < 128 ∧ smallLetter c = c.toLower) ∨ smallLetter c = c ∨
      (c.toNat ∈ capitals ∧ ∃ n ∈ smallLetters, smallLetter c = Char.ofNat n) := by
  by_cases hascii : c.toNat < 128
  · exact .inl ⟨hascii, if_pos hascii⟩
  · cases hfind : caseRuns.find? (·.covers c.toNat) with
    | none => exact .inr (.inl (by rw [smallLetter, if_neg hascii, hfind]))
    | some run =>
      have hrun := List.mem_of_find?_eq_some hfind
      have hcovers := List.find?_some hfind
      have hcapital : c.toNat ∈ run.capitals := CaseRun.mem_capitals_of_covers hcovers
      have hletter : smallLetter c = Char.ofNat (c.toNat + run.offset).toNat := by
        rw [smallLetter, if_neg hascii, hfind]
      refine .inr (.inr ⟨?_, (c.toNat + run.offset).toNat, ?_, hletter⟩)
      · exact List.mem_append_right _ (List.mem_flatMap.2 ⟨run, hrun, hcapital⟩)
      · exact List.mem_flatMap.2 ⟨run, hrun, List.mem_map_of_mem hcapital⟩

/-- Only capitals are changed. -/
theorem isSmall_of_notMem (h : c.toNat ∉ capitals) : IsSmall c := by
  refine ⟨?_, ?_, ?_⟩
  · rintro rfl
    exact h (by decide)
  · rintro rfl
    exact h (by decide)
  · rcases smallLetter_cases c with ⟨-, hlower⟩ | hsame | ⟨hmem, -⟩
    · have hrange : ¬ (c.val ≥ 'A'.val ∧ c.val ≤ 'Z'.val) := by
        rintro ⟨hge, hle⟩
        refine h (List.mem_append_left _ (List.mem_append_left _ (List.mem_range'_1.2 ?_)))
        have hlow : 65 ≤ c.toNat := hge
        have hhigh : c.toNat ≤ 90 := hle
        omega
      exact hlower.trans (dif_neg hrange)
    · exact hsame
    · exact absurd hmem h

theorem isSmall_toLower (h : c.toNat < 128) : IsSmall c.toLower := by
  have hall : ∀ n < 128, IsSmall (Char.ofNat n).toLower := by decide +kernel
  simpa only [Char.ofNat_toNat] using hall c.toNat h

theorem toNat_ofNat_or (n : Nat) : (Char.ofNat n).toNat = n ∨ Char.ofNat n = '\x00' := by
  by_cases hvalid : n.isValidChar
  · have hcode : Char.ofNat n = Char.ofNatAux n hvalid := dif_pos hvalid
    exact .inl (by rw [hcode]; rfl)
  · exact .inr (dif_neg hvalid)

/-- What a capital becomes is small. -/
theorem isSmall_smallLetter (hsigma : c ≠ 'Σ') (hdotted : c ≠ 'İ') : IsSmall (smallLetter c) := by
  rcases smallLetter_cases c with ⟨hascii, hlower⟩ | hsame | ⟨-, n, hn, hletter⟩
  · rw [hlower]
    exact isSmall_toLower hascii
  · rw [hsame]
    exact ⟨hsigma, hdotted, hsame⟩
  · rw [hletter]
    rcases toNat_ofNat_or n with hcode | hcode
    · refine isSmall_of_notMem ?_
      rw [hcode]
      exact fun hcapital => capitals_disjoint_smallLetters hcapital hn
    · rw [hcode]
      decide

theorem isBlank_smallLetter (c : Char) : isBlank (smallLetter c) = isBlank c := by
  rcases smallLetter_cases c with ⟨hascii, hlower⟩ | hsame | ⟨hcapital, n, hn, hletter⟩
  · have hall : ∀ n < 128, isBlank (Char.ofNat n).toLower = isBlank (Char.ofNat n) := by
      decide +kernel
    have hc := hall c.toNat hascii
    rwa [Char.ofNat_toNat, ← hlower] at hc
  · rw [hsame]
  · have hletterBlank : ¬ isBlank (smallLetter c) = true := by
      rw [hletter]
      rcases toNat_ofNat_or n with hcode | hcode
      · rw [isBlank_iff, hcode]
        exact fun hblank => blanks_disjoint_smallLetters hblank hn
      · rw [hcode]
        decide
    have hcapitalBlank : ¬ isBlank c = true := by
      rw [isBlank_iff]
      exact fun hblank => blanks_disjoint_capitals hblank hcapital
    rw [Bool.eq_false_iff.2 hletterBlank, Bool.eq_false_iff.2 hcapitalBlank]

theorem smallForm_of_isSmall (h : IsSmall c) : smallForm before after c = [c] := by
  rw [smallForm, if_neg h.1, if_neg h.2.1, h.2.2]

theorem smallForm_ne_nil : smallForm before after c ≠ [] := by
  rw [smallForm]
  split
  · simp
  · split
    · simp
    · simp

/-- Small forms are small, and blank as their characters are. -/
theorem of_mem_smallForm (h : d ∈ smallForm before after c) :
    IsSmall d ∧ isBlank d = isBlank c := by
  rw [smallForm] at h
  split at h
  · subst c
    obtain rfl := List.mem_singleton.1 h
    split
    · decide
    · decide
  · rename_i hsigma
    split at h
    · subst c
      rcases List.mem_pair.1 h with rfl | rfl
      · decide
      · decide
    · rename_i hdotted
      obtain rfl := List.mem_singleton.1 h
      exact ⟨isSmall_smallLetter hsigma hdotted, isBlank_smallLetter c⟩

end Letters

section Texts

variable {s : List Char} {c d : Char} {before : List Char}

theorem isSmall_of_mem_lowerFrom (h : d ∈ lowerFrom before s) : IsSmall d := by
  induction s generalizing before with
  | nil => simp [lowerFrom] at h
  | cons c after ih =>
    rw [lowerFrom, List.mem_append] at h
    rcases h with h | h
    · exact (of_mem_smallForm h).1
    · exact ih h

theorem lowerFrom_of_isSmall (h : ∀ c ∈ s, IsSmall c) : lowerFrom before s = s := by
  induction s generalizing before with
  | nil => rfl
  | cons c after ih =>
    obtain ⟨hc, hafter⟩ := List.forall_mem_cons.1 h
    rw [lowerFrom, smallForm_of_isSmall hc, ih hafter, List.singleton_append]

/-- A text in small letters stays as it is. -/
theorem lower_lower (s : String) : lower (lower s) = lower s := by
  have hsmall : lowerFrom [] (lowerChars s.toList) = lowerChars s.toList :=
    lowerFrom_of_isSmall fun c hc => isSmall_of_mem_lowerFrom hc
  rw [lower, toList_lower, lowerChars, hsmall]
  rfl

theorem lowerFrom_eq_nil_iff : lowerFrom before s = [] ↔ s = [] := by
  cases s with
  | nil => simp [lowerFrom]
  | cons c after => simp [lowerFrom, smallForm_ne_nil]

theorem lower_eq_empty_iff {s : String} : lower s = "" ↔ s = "" := by
  rw [← String.toList_eq_nil_iff, toList_lower, lowerChars, lowerFrom_eq_nil_iff,
    String.toList_eq_nil_iff]

/-- No blank at either end. -/
structure Stripped (s : List Char) : Prop where
  first : ∀ c ∈ s.head?, isBlank c = false
  last : ∀ c ∈ s.getLast?, isBlank c = false

instance : DecidablePred Stripped := fun s =>
  decidable_of_iff (s.head?.any isBlank = false ∧ s.getLast?.any isBlank = false) <| by
    rw [Option.any_eq_false, Option.any_eq_false]
    exact ⟨fun h => ⟨h.1, h.2⟩, fun h => ⟨h.first, h.last⟩⟩

theorem isBlank_of_head?_stripStart {s : List Char} (h : c ∈ (stripStart s).head?) :
    isBlank c = false := by
  have hhead := List.head?_dropWhile_not isBlank s
  rw [stripStart] at h
  rwa [h] at hhead

theorem stripStart_of_head? (h : ∀ c ∈ s.head?, isBlank c = false) : stripStart s = s := by
  cases s with
  | nil => rfl
  | cons c rest => rw [stripStart, List.dropWhile_cons_of_neg (by simp [h c rfl])]

theorem Stripped.strip_eq (h : Stripped s) : strip s = s := by
  rw [strip, stripStart_of_head? h.first, stripStart_of_head?, List.reverse_reverse]
  simpa only [List.head?_reverse] using h.last

theorem stripped_strip (s : List Char) : Stripped (strip s) where
  first := by
    intro c hc
    obtain ⟨blanksBehind, hsplit⟩ := List.dropWhile_suffix (l := (stripStart s).reverse) isBlank
    have hstart : stripStart s = strip s ++ blanksBehind.reverse := by
      change stripStart s = (List.dropWhile isBlank (stripStart s).reverse).reverse ++ _
      rw [← List.reverse_append, hsplit, List.reverse_reverse]
    refine isBlank_of_head?_stripStart (s := s) ?_
    rw [hstart, List.head?_append, hc]
    rfl
  last := by
    intro c hc
    rw [strip, List.getLast?_reverse] at hc
    exact isBlank_of_head?_stripStart hc

theorem exists_of_getLast?_lowerFrom (h : d ∈ (lowerFrom before s).getLast?) :
    ∃ c ∈ s.getLast?, isBlank d = isBlank c := by
  induction s generalizing before with
  | nil => simp [lowerFrom] at h
  | cons c after ih =>
    rw [lowerFrom, List.getLast?_append] at h
    rcases Option.or_eq_some_iff.1 h with h | ⟨hafter, h⟩
    · obtain ⟨last, hlast, hblank⟩ := ih h
      exact ⟨last, by rw [List.getLast?_cons, hlast]; rfl, hblank⟩
    · rw [List.getLast?_eq_none_iff, lowerFrom_eq_nil_iff] at hafter
      subst hafter
      exact ⟨c, rfl, (of_mem_smallForm (List.mem_of_getLast? h)).2⟩

theorem exists_of_head?_lowerFrom (h : d ∈ (lowerFrom before s).head?) :
    ∃ c ∈ s.head?, isBlank d = isBlank c := by
  cases s with
  | nil => simp [lowerFrom] at h
  | cons c after =>
    rw [lowerFrom, List.head?_append] at h
    rcases Option.or_eq_some_iff.1 h with h | ⟨hnone, -⟩
    · exact ⟨c, rfl, (of_mem_smallForm (List.mem_of_head? h)).2⟩
    · exact absurd (List.head?_eq_none_iff.1 hnone) smallForm_ne_nil

/-- An end that is not blank is not blank in small letters either. -/
theorem Stripped.lowerFrom (h : Stripped s) (before : List Char) :
    Stripped (lowerFrom before s) where
  first := by
    intro d hd
    obtain ⟨c, hc, hblank⟩ := exists_of_head?_lowerFrom hd
    exact hblank.trans (h.first c hc)
  last := by
    intro d hd
    obtain ⟨c, hc, hblank⟩ := exists_of_getLast?_lowerFrom hd
    exact hblank.trans (h.last c hc)

/-- A trimmed text is trimmed in small letters too. -/
theorem trim_lower_trim (s : String) : trim (lower (trim s)) = lower (trim s) := by
  have hstripped : Stripped (lowerChars (strip s.toList)) := (stripped_strip s.toList).lowerFrom []
  rw [trim, toList_lower, toList_trim, hstripped.strip_eq, lower, toList_trim]

end Texts

end PortableSql.Text
