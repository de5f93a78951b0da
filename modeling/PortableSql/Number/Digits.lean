/-! Decimal digits of natural numbers at a fixed width, as clock fields and fractions
of a second are written. -/

namespace PortableSql.Number

/-- The decimal digits of `n`, with zeros in front up to `width`. -/
def paddedChars (width n : Nat) : List Char :=
  let digits := Nat.toDigits 10 n
  List.replicate (width - digits.length) '0' ++ digits

def padded (width n : Nat) : String := String.ofList (paddedChars width n)

/-- Two hexadecimal digits, capital letters. -/
def hexPair (n : Nat) : List Char :=
  (paddedHex n).map Char.toUpper
where
  paddedHex (n : Nat) : List Char :=
    let digits := Nat.toDigits 16 n
    List.replicate (2 - digits.length) '0' ++ digits

end PortableSql.Number
