import PortableSql.Number.Digits

/-! The text of a double. It has the fewest decimal digits that read back as the same
number, of those the nearest to it, and it is always written positionally. A double
`m * 2 ^ q` stands for all reals that round to it, from half a step below to half a
step above, the ends belonging to it when `m` is even; below a power of two the step
is half as wide. The coarsest decimal grid with a point in that interval gives the
digits, and one of the two grid points around the number itself is such a point. -/

namespace PortableSql.Number

/-- The parts of a double. A finite one is `± mantissa * 2 ^ exponent`; `narrowBelow` tells
that the next smaller double is only half as far away as the next larger one. -/
inductive Binary64
  | finite (negative : Bool) (mantissa : Nat) (exponent : Int) (narrowBelow : Bool)
  | infinite (negative : Bool)
  | nan

namespace Binary64

/-- The double with these sixty-four bits. -/
def ofBits (bits : Nat) : Binary64 :=
  let negative := bits / Nat.pow 2 63 % 2 == 1
  let biased : Nat := bits / Nat.pow 2 52 % Nat.pow 2 11
  let fraction : Nat := bits % Nat.pow 2 52
  if biased = 2047 then if fraction = 0 then .infinite negative else .nan
  else if biased = 0 then .finite negative fraction (-1074) false
  else
    .finite negative (fraction + Nat.pow 2 52) (Int.ofNat biased - 1075)
      (fraction == 0 && biased > 1)

/-- The reals that round to one double, as multiples of `1 / unit`. -/
structure Interval where
  low : Nat
  value : Nat
  high : Nat
  unit : Nat
  closed : Bool

/-- The interval of `mantissa * 2 ^ exponent`. -/
def interval (mantissa : Nat) (exponent : Int) (narrowBelow : Bool) : Interval :=
  let scale := Nat.pow 2 (exponent - 2).toNat
  { low := (4 * mantissa - (if narrowBelow then 1 else 2)) * scale
    value := 4 * mantissa * scale
    high := (4 * mantissa + 2) * scale
    unit := Nat.pow 2 (2 - exponent).toNat
    closed := mantissa % 2 == 0 }

/-- The same interval measured in units of `10 ^ k`. -/
def Interval.onGrid (i : Interval) (k : Int) : Interval :=
  let up := Nat.pow 10 (-k).toNat
  { i with
    low := i.low * up
    value := i.value * up
    high := i.high * up
    unit := i.unit * Nat.pow 10 k.toNat }

/-- Is the integer `n` inside? -/
def Interval.holds (i : Interval) (n : Nat) : Bool :=
  let x := n * i.unit
  if i.closed then i.low ≤ x && x ≤ i.high else i.low < x && x < i.high

/-- The integer inside that is nearest to the value, of two equally near ones the larger. -/
def Interval.nearest? (i : Interval) : Option Nat :=
  let below := i.value / i.unit
  let remainder := i.value % i.unit
  match i.holds below, i.holds (below + 1) with
  | true, true => some (if 2 * remainder < i.unit then below else below + 1)
  | true, false => some below
  | false, true => some (below + 1)
  | false, false => none

/-- The first grid `10 ^ k`, `10 ^ (k - 1)`, … with a point inside, and that point. -/
def Interval.coarsest (i : Interval) (k : Int) : Nat → Nat × Int
  | 0 => ((i.onGrid k).value / (i.onGrid k).unit, k)
  | steps + 1 =>
    match (i.onGrid k).nearest? with
    | some n => (n, k)
    | none => i.coarsest (k - 1) steps

/-- Digits and power of ten of the shortest decimal that reads back. The search starts two
places above the leading digit, and seventeen digits always suffice. -/
def shortest (mantissa : Nat) (exponent : Int) (narrowBelow : Bool) : Nat × Int :=
  let bits : Int := mantissa.log2 + exponent
  (interval mantissa exponent narrowBelow).coarsest (bits * 30103 / 100000 + 2) 24

/-- `n * 10 ^ k` written without an exponent. -/
def positional (n : Nat) (k : Int) : List Char :=
  let digits := Nat.toDigits 10 n
  let places := (-k).toNat
  if places = 0 then digits ++ List.replicate k.toNat '0'
  else if places < digits.length then
    digits.take (digits.length - places) ++ '.' :: digits.drop (digits.length - places)
  else '0' :: '.' :: List.replicate (places - digits.length) '0' ++ digits

def render : Binary64 → String
  | .nan => "NaN"
  | .infinite negative => if negative then "-inf" else "inf"
  | .finite negative mantissa exponent narrowBelow =>
    let sign := if negative then "-" else ""
    if mantissa = 0 then sign ++ "0"
    else
      let (n, k) := shortest mantissa exponent narrowBelow
      sign ++ String.ofList (positional n k)

end Binary64

end PortableSql.Number
