import Mathlib.Algebra.Ring.Nat
import PortableSql.Proofs.ColumnType.SizeSource

/-! How many decimal digits a floating column holds. A precision that comes with a scale counts
decimal digits, and it is converted by the natural logarithm of ten: the column gets between 2.30
and 2.31 binary digits for each decimal digit, and a part of one more from rounding up. A decimal
digit takes more than 3.31 of them, as is seen from `2 ^ 53 < 10 ^ 16`. So the column never holds
all the digits it is meant for, and of a single one none. It holds two thirds of them, but never
seven tenths of them and three tenths of one. -/

namespace PortableSql

namespace Number

/-- Rounding to an integer is off by half a unit at most. -/
theorem nearestEven_near (num : Nat) {den : Nat} (hden : 0 < den) :
    2 * (nearestEven num den * den) ≤ 2 * num + den ∧
      2 * num ≤ 2 * (nearestEven num den * den) + den := by
  have hdivision := Nat.div_add_mod' num den
  have hmod := Nat.mod_lt num hden
  rw [nearestEven]
  generalize num / den = q at *
  generalize num % den = r at *
  split
  · omega
  · rw [Nat.add_mul]
    omega

theorem roundTo53Bits_eq (n : Nat) :
    roundTo53Bits n = nearestEven n (2 ^ (n.log2 - 52)) * 2 ^ (n.log2 - 52) := rfl

theorem roundTo53Bits_of_log2_le {n : Nat} (h : n.log2 ≤ 52) : roundTo53Bits n = n := by
  have hone := nearestEven_mul n Nat.one_pos
  rw [Nat.mul_one] at hone
  rw [roundTo53Bits_eq, Nat.sub_eq_zero_of_le h, Nat.pow_zero, Nat.mul_one, hone]

/-- Rounding to 53 bits changes a number by one part in `2 ^ 53` at most. -/
theorem roundTo53Bits_near (n : Nat) :
    2 ^ 53 * roundTo53Bits n ≤ 2 ^ 53 * n + n ∧ 2 ^ 53 * n ≤ 2 ^ 53 * roundTo53Bits n + n := by
  by_cases hsmall : n.log2 ≤ 52
  · rw [roundTo53Bits_of_log2_le hsmall]
    omega
  · have hunit : 2 ^ 52 * 2 ^ (n.log2 - 52) ≤ n := by
      have hn : n ≠ 0 := fun h => hsmall (by simp [h])
      calc 2 ^ 52 * 2 ^ (n.log2 - 52) = 2 ^ n.log2 := by
            rw [← Nat.pow_add, Nat.add_sub_cancel' (by omega)]
        _ ≤ n := Nat.log2_self_le hn
    have hnear := nearestEven_near n (Nat.two_pow_pos (n.log2 - 52))
    rw [roundTo53Bits_eq]
    omega

theorem le_ceilDiv_mul (num : Nat) {den : Nat} (hden : 0 < den) : num ≤ ceilDiv num den * den := by
  have hdivision := Nat.div_add_mod' (num + den - 1) den
  have hmod := Nat.mod_lt (num + den - 1) hden
  rw [ceilDiv]
  omega

theorem ceilDiv_mul_lt (num : Nat) {den : Nat} (hden : 0 < den) :
    ceilDiv num den * den < num + den := by
  have hle := Nat.div_mul_le_self (num + den - 1) den
  rw [ceilDiv]
  omega

end Number

section Conversion

open Number

variable {n : Nat}

theorem binaryDigits_eq (n : Nat) :
    binaryDigits n =
      min (ceilDiv (roundTo53Bits (n * 5184960683398422)) (2 ^ 51)) maxDigits := rfl

/-- The factor is less than 2.31. -/
theorem binaryDigits_lt (n : Nat) : 100 * binaryDigits n < 231 * n + 100 := by
  have hround := (roundTo53Bits_near (n * 5184960683398422)).1
  have hceil := ceilDiv_mul_lt (roundTo53Bits (n * 5184960683398422)) (Nat.two_pow_pos 51)
  rw [binaryDigits_eq]
  omega

/-- The factor is more than 2.30, where the count of digits has an end above it. -/
theorem le_binaryDigits (h : binaryDigits n < maxDigits) : 230 * n ≤ 100 * binaryDigits n := by
  have hround := (roundTo53Bits_near (n * 5184960683398422)).2
  have hceil := le_ceilDiv_mul (roundTo53Bits (n * 5184960683398422)) (Nat.two_pow_pos 51)
  rw [binaryDigits_eq] at h ⊢
  omega

end Conversion

section Capacity

variable {bits digits n m : Nat}

/-- Every number of so many decimal digits has no more than so many binary ones. -/
def HoldsDecimals (bits digits : Nat) : Prop := ∀ k < 10 ^ digits, k < 2 ^ bits

theorem holdsDecimals_iff : HoldsDecimals bits digits ↔ 10 ^ digits ≤ 2 ^ bits := by
  constructor
  · intro h
    by_contra hlt
    exact Nat.lt_irrefl _ (h (2 ^ bits) (Nat.lt_of_not_le hlt))
  · intro h k hk
    exact Nat.lt_of_lt_of_le hk h

/-- Three decimal digits need no more than ten binary ones. -/
theorem holdsDecimals_of_le (h : 10 * digits ≤ 3 * bits) : HoldsDecimals bits digits := by
  rw [holdsDecimals_iff, ← Nat.pow_le_pow_iff_left (n := 3) (by decide)]
  calc (10 ^ digits) ^ 3 = (10 ^ 3) ^ digits := Nat.pow_right_comm 10 digits 3
    _ ≤ (2 ^ 10) ^ digits := Nat.pow_le_pow_left (by decide) digits
    _ = 2 ^ (10 * digits) := (Nat.pow_mul 2 10 digits).symm
    _ ≤ 2 ^ (3 * bits) := Nat.pow_le_pow_right Nat.two_pos h
    _ = (2 ^ bits) ^ 3 := by rw [Nat.mul_comm, Nat.pow_mul]

/-- Sixteen decimal digits need more than 53 binary ones. -/
theorem not_holdsDecimals_of_le (hpos : 0 < digits) (h : 16 * bits ≤ 53 * digits) :
    ¬ HoldsDecimals bits digits := by
  rw [holdsDecimals_iff, Nat.not_le, ← Nat.pow_lt_pow_iff_left (n := 16) (by decide)]
  calc (2 ^ bits) ^ 16 = 2 ^ (16 * bits) := by rw [Nat.mul_comm, Nat.pow_mul]
    _ ≤ 2 ^ (53 * digits) := Nat.pow_le_pow_right Nat.two_pos h
    _ = (2 ^ 53) ^ digits := Nat.pow_mul 2 53 digits
    _ < (10 ^ 16) ^ digits := Nat.pow_lt_pow_left (by decide) (Nat.ne_of_gt hpos)
    _ = (10 ^ digits) ^ 16 := Nat.pow_right_comm 10 16 digits

theorem holdsDecimals_two_thirds (hbits : binaryDigits n < maxDigits) (h : 3 * m ≤ 2 * n) :
    HoldsDecimals (binaryDigits n) m := by
  have hfactor := le_binaryDigits hbits
  exact holdsDecimals_of_le (by omega)

theorem not_holdsDecimals_seven_tenths (hn : 0 < n) (h : 7 * n + 3 ≤ 10 * m) :
    ¬ HoldsDecimals (binaryDigits n) m := by
  have hfactor := binaryDigits_lt n
  exact not_holdsDecimals_of_le (by omega) (by omega)

theorem holdsDecimals_binaryDigits_iff : HoldsDecimals (binaryDigits n) n ↔ n = 0 := by
  constructor
  · intro h
    by_contra hn
    exact not_holdsDecimals_seven_tenths (Nat.pos_of_ne_zero hn) (by omega) h
  · rintro rfl
    exact holdsDecimals_of_le (by omega)

end Capacity

/-- A floating column that is given a precision and a scale has the binary precision that the
precision is converted to. It holds the decimal digits of that precision only if there are none.
It holds two thirds of them, but not seven tenths of them and three tenths of one. -/
theorem floating_precision_loses_digits (d : SizeDefaults) {code : TypeCode}
    (hcode : code ∈ TypeCode.floatingPoint) (language : LanguageType) {supplied : Size} {n : Nat}
    (hprecision : supplied.precision = some n) (hscale : supplied.scale ≠ none) :
    (d.resolve code language supplied).precision = some (binaryDigits n) ∧
      (HoldsDecimals (binaryDigits n) n ↔ n = 0) ∧
      (binaryDigits n < maxDigits → ∀ m, 3 * m ≤ 2 * n → HoldsDecimals (binaryDigits n) m) ∧
      (0 < n → ∀ m, 7 * n + 3 ≤ 10 * m → ¬ HoldsDecimals (binaryDigits n) m) := by
  have hcounts : supplied.CountsDecimals code := by
    refine ⟨hcode, ?_, hscale⟩
    simp [hprecision]
  have hsettles : Settles d code language supplied .precision (some (binaryDigits n)) :=
    .converted hcounts hprecision
  refine ⟨hsettles.get?_resolve, holdsDecimals_binaryDigits_iff, ?_, ?_⟩
  · intro hbits m hm
    exact holdsDecimals_two_thirds hbits hm
  · intro hn m hm
    exact not_holdsDecimals_seven_tenths hn hm

/-- Of fifteen digits ten are held and eleven are not. -/
theorem fifteen_digits_become_ten :
    let supplied : Size := { precision := some 15, scale := some 2 }
    let b := binaryDigits 15
    TypeCode.float ∈ TypeCode.floatingPoint ∧ supplied.precision = some 15 ∧
      supplied.scale ≠ none ∧ b = 35 ∧ b < maxDigits ∧
      (SizeDefaults.standard.resolve .float .double supplied).precision = some b ∧
      HoldsDecimals b 10 ∧ ¬ HoldsDecimals b 11 := by
  intro supplied b
  have hcode : TypeCode.float ∈ TypeCode.floatingPoint := by decide
  have hdigits : supplied.precision = some 15 := rfl
  have hscale : supplied.scale ≠ none := by decide
  have hb : b = 35 := by decide +kernel
  have hmax : b < maxDigits := by
    rw [hb]
    decide
  obtain ⟨hprecision, -, hheld, hlost⟩ :=
    floating_precision_loses_digits .standard hcode .double hdigits hscale
  exact ⟨hcode, hdigits, hscale, hb, hmax, hprecision, hheld hmax 10 (by decide),
    hlost (by decide) 11 (by decide)⟩

/-- One decimal digit is converted to three binary ones, and nine needs a fourth. Seventeen are
converted to forty, and forty binary digits are said to hold thirteen decimal ones. -/
theorem single_digit_lost :
    binaryDigits 1 = 3 ∧ binaryDigits 1 < maxDigits ∧ ¬ HoldsDecimals (binaryDigits 1) 1 ∧
      binaryDigits 17 = 40 ∧ decimalDigits 40 = 13 := by
  have hthree : binaryDigits 1 = 3 := by decide +kernel
  rw [hthree, holdsDecimals_iff]
  decide +kernel

end PortableSql
