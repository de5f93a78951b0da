/-! Rounding of exact quotients to the precision of double arithmetic, 53 significant
bits, where a tie goes to the even neighbour. Nothing here is approximate: numbers
are naturals and quotients of naturals, and only the rounding loses anything. -/

namespace PortableSql.Number

/-- The integer nearest to `num / den`, of two equally near ones the even one. -/
def nearestEven (num den : Nat) : Nat :=
  let q := num / den
  let r := num % den
  if 2 * r < den ∨ (2 * r = den ∧ q % 2 = 0) then q else q + 1

/-- The least integer that is no smaller than `num / den`. -/
def ceilDiv (num den : Nat) : Nat := (num + den - 1) / den

/-- A natural number rounded to 53 significant bits. -/
def roundTo53Bits (n : Nat) : Nat :=
  let drop := n.log2 - 52
  nearestEven n (Nat.pow 2 drop) * Nat.pow 2 drop

/-- A positive quotient `num / den` below `2 ^ 52` as `m / 2 ^ k`, where `m` has 53 bits. -/
def quotient53 (num den : Nat) : Nat × Nat :=
  let k := 116 - (num * Nat.pow 2 64 / den).log2
  (nearestEven (num * Nat.pow 2 k) den, k)

theorem nearestEven_mul (n : Nat) {den : Nat} (h : 0 < den) : nearestEven (n * den) den = n := by
  simp [nearestEven, Nat.mul_div_cancel _ h, h]

end PortableSql.Number
