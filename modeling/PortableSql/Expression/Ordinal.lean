/-! Patterns with numbered places, `?1`, `?2` and so on. A pattern falls into pieces: a
question mark takes all the digits that follow it, everything else is text. A piece
is a live place when its digits spell a number from one up to the largest that a
machine word of 64 bits holds; other question marks, those of bind markers among
them, are text. Filling replaces the live places that have an argument and copies
the rest, and it never reads an argument again. -/

namespace PortableSql

/-- The number that digits spell, if a machine word holds it. -/
def wordOfDigits? (digits : List Char) : Option Nat :=
  let n := Nat.ofDigitChars 10 digits 0
  if digits ≠ [] ∧ n < UInt64.size then some n else none

/-- A character of text, or a question mark with the digits that follow it. -/
inductive PatternPiece
  | text (c : Char)
  | mark (digits : List Char)
  deriving DecidableEq, Repr

namespace PatternPiece

/-- The characters a piece is written with. -/
def spelling : PatternPiece → List Char
  | text c => [c]
  | mark digits => '?' :: digits

/-- The number of a live place. -/
def ordinal? : PatternPiece → Option Nat
  | text _ => none
  | mark digits => (wordOfDigits? digits).filter (1 ≤ ·)

/-- What a piece becomes: the argument of its place, or else itself. -/
def fill (arguments : List String) (p : PatternPiece) : List Char :=
  match p.ordinal?.bind fun n => arguments[n - 1]? with
  | some argument => argument.toList
  | none => p.spelling

end PatternPiece

/-- The pieces of the rest of a pattern. After a question mark the first argument holds the
digits read since then, the last one first. -/
def piecesFrom : Option (List Char) → List Char → List PatternPiece
  | none, [] => []
  | some digits, [] => [.mark digits.reverse]
  | none, c :: rest =>
    if c = '?' then piecesFrom (some []) rest else .text c :: piecesFrom none rest
  | some digits, c :: rest =>
    if c.isDigit then piecesFrom (some (c :: digits)) rest
    else .mark digits.reverse ::
      (if c = '?' then piecesFrom (some []) rest else .text c :: piecesFrom none rest)

def patternPieces (pattern : List Char) : List PatternPiece := piecesFrom none pattern

/-- The pattern with its live places filled from the arguments. -/
def fillPattern (pattern : String) (arguments : List String) : String :=
  String.ofList ((patternPieces pattern.toList).flatMap (·.fill arguments))

theorem spelling_piecesFrom (digits : Option (List Char)) (pattern : List Char) :
    (piecesFrom digits pattern).flatMap PatternPiece.spelling =
      (match digits with | some ds => '?' :: ds.reverse | none => []) ++ pattern := by
  fun_induction piecesFrom digits pattern with
  | case1 => rfl
  | case2 => simp [PatternPiece.spelling]
  | case3 rest ih => simpa using ih
  | case4 c rest hc ih => simpa [PatternPiece.spelling] using ih
  | case5 digits c rest hc ih => simpa using ih
  | case6 digits c rest hd ihMark ihText =>
    split <;> simp_all [PatternPiece.spelling]

/-- Nothing is lost or added when a pattern is cut into pieces. -/
theorem spelling_patternPieces (pattern : List Char) :
    (patternPieces pattern).flatMap PatternPiece.spelling = pattern := by
  simpa [patternPieces] using spelling_piecesFrom none pattern

end PortableSql
