import Mathlib.Algebra.Ring.Nat
import Mathlib.Tactic.SplitIfs
import PortableSql.Number.Digits

/-! Digits read back. The digits of a number denote that number, with and without zeros in
front. A number that is small enough for a field fills it exactly. -/

namespace PortableSql.Number

variable {width n : Nat} {c : Char}

/-- The number that a text of digits denotes. -/
def readDigits (text : List Char) : Option Nat :=
  if text ≠ [] ∧ text.all Char.isDigit = true then some (Nat.ofDigitChars 10 text 0) else none

theorem isDigit_of_mem_toDigits (h : c ∈ Nat.toDigits 10 n) : c.isDigit = true :=
  Nat.isDigit_of_mem_toDigits (by decide) (by decide) h

theorem readDigits_toDigits (n : Nat) : readDigits (Nat.toDigits 10 n) = some n := by
  have hdigits : (Nat.toDigits 10 n).all Char.isDigit = true :=
    List.all_eq_true.2 fun _ => isDigit_of_mem_toDigits
  rw [readDigits, if_pos ⟨Nat.toDigits_ne_nil, hdigits⟩, Nat.ofDigitChars_ten_toDigits]

theorem isDigit_of_mem_paddedChars (h : c ∈ paddedChars width n) : c.isDigit = true := by
  rcases List.mem_append.1 h with h | h
  · rw [List.eq_of_mem_replicate h]
    decide
  · exact isDigit_of_mem_toDigits h

theorem paddedChars_ne_nil (width n : Nat) : paddedChars width n ≠ [] := by
  simp [paddedChars, Nat.toDigits_ne_nil]

/-- Zeros in front add nothing. -/
theorem readDigits_paddedChars (width n : Nat) : readDigits (paddedChars width n) = some n := by
  have hdigits : (paddedChars width n).all Char.isDigit = true :=
    List.all_eq_true.2 fun _ => isDigit_of_mem_paddedChars
  rw [readDigits, if_pos ⟨paddedChars_ne_nil width n, hdigits⟩, paddedChars,
    Nat.ofDigitChars_append, Nat.ofDigitChars_replicate_zero, Nat.mul_zero, Nat.ofDigitChars_ten_toDigits]

theorem length_paddedChars (hwidth : 0 < width) (h : n < 10 ^ width) :
    (paddedChars width n).length = width := by
  have hle := (Nat.length_toDigits_le_iff (by decide) hwidth).2 h
  rw [paddedChars, List.length_append, List.length_replicate]
  omega

theorem toList_toString_int (i : Int) :
    (toString i).toList = (if i < 0 then ['-'] else []) ++ Nat.toDigits 10 i.natAbs := by
  rw [Int.toString_eq_repr, Int.repr_eq_if]
  by_cases h : i < 0
  · have hnat : (-i).toNat = i.natAbs := by omega
    rw [if_neg (by omega), if_pos h, hnat, String.toList_append, Nat.toList_repr]
    rfl
  · have hnat : i.toNat = i.natAbs := by omega
    rw [if_pos (by omega), if_neg h, hnat, Nat.toList_repr, List.nil_append]

theorem mem_toString_int {i : Int} (h : c ∈ (toString i).toList) : c = '-' ∨ c.isDigit = true := by
  rw [toList_toString_int, List.mem_append] at h
  rcases h with hsign | hdigit
  · refine .inl ?_
    split_ifs at hsign
    · exact List.mem_singleton.1 hsign
    · exact absurd hsign List.not_mem_nil
  · exact .inr (isDigit_of_mem_toDigits hdigit)

end PortableSql.Number
