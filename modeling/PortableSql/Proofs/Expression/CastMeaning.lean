import PortableSql.Expression.CastMatrix

/-! What the pattern of a cast means. A pattern is cut into words and read as an expression:
the operand, its sign, an absolute value, an inequality with a literal, a simple case between
literals, or the cast that is left to the database. Nulls go through all of them, as a case
finds no key equal to null. An expression without a meaning, such as a comparison between
values of different kinds, has no value. -/

namespace PortableSql

/-- A value of a column, as far as casts look at it. -/
inductive SqlValue
  | null
  | truth (b : Bool)
  | number (n : Int)
  | text (chars : List Char)
  deriving DecidableEq, Repr

namespace SqlValue

/-- Equality with three answers, of which null is the unknown one. -/
def equal : SqlValue → SqlValue → Option SqlValue
  | null, _ => some null
  | _, null => some null
  | truth a, truth b => some (truth (a = b))
  | number m, number n => some (truth (m = n))
  | text s, text t => some (truth (s = t))
  | _, _ => none

def negate : SqlValue → Option SqlValue
  | null => some null
  | truth b => some (truth !b)
  | _ => none

/-- A function of numbers, which keeps null. -/
def onNumber (f : Int → Int) : SqlValue → Option SqlValue
  | null => some null
  | number n => some (number (f n))
  | _ => none

/-- The result behind the first key that equals the value. -/
def choose (v : SqlValue) (otherwise : SqlValue) : List (SqlValue × SqlValue) → Option SqlValue
  | [] => some otherwise
  | (key, result) :: rest =>
    (v.equal key).bind fun found =>
      if found = truth true then some result else v.choose otherwise rest

end SqlValue

/-- What may stand in the pattern of a cast. -/
inductive CastExpression
  /-- The value to cast. -/
  | operand
  | sign (e : CastExpression)
  | abs (e : CastExpression)
  /-- The value is not a literal. -/
  | differs (e : CastExpression) (literal : SqlValue)
  /-- A case that compares the value with literals and has literals as results. -/
  | simpleCase (e : CastExpression) (branches : List (SqlValue × SqlValue)) (otherwise : SqlValue)
  /-- The cast that the database does by itself. -/
  | cast (e : CastExpression)
  deriving DecidableEq, Repr

namespace CastExpression

/-- The value of an expression, where `native` is what the database's own cast does. -/
def eval (native : SqlValue → Option SqlValue) (v : SqlValue) : CastExpression → Option SqlValue
  | operand => some v
  | sign e => (e.eval native v).bind (SqlValue.onNumber Int.sign)
  | abs e => (e.eval native v).bind (SqlValue.onNumber fun n => n.natAbs)
  | differs e literal => ((e.eval native v).bind (·.equal literal)).bind SqlValue.negate
  | simpleCase e branches otherwise => (e.eval native v).bind (·.choose otherwise branches)
  | cast e => (e.eval native v).bind native

/-- The words of a text, of which the first is still being read. Parentheses and the signs of
an inequality are words by themselves. -/
def wordsFrom : List Char → List (List Char)
  | [] => [[]]
  | c :: rest =>
    match wordsFrom rest with
    | word :: more =>
      if c = ' ' then [] :: word :: more
      else if c ∈ ['(', ')', '<', '>'] then [] :: [c] :: word :: more
      else (c :: word) :: more
    | [] => []

/-- The value a word stands for. A string is a word between quotes without one inside. -/
def literal? (word : List Char) : Option SqlValue :=
  if word = "null".toList then some .null
  else if word = "true".toList then some (.truth true)
  else if word = "false".toList then some (.truth false)
  else if word.all Char.isDigit then some (.number (Nat.ofDigitChars 10 word 0))
  else
    let chars := (word.drop 1).dropLast
    if word = '\x27' :: chars ++ ['\x27'] ∧ '\x27' ∉ chars then some (.text chars) else none

inductive Token
  | word (letters : String)
  | literal (v : SqlValue)
  deriving DecidableEq, Repr

def tokens (pattern : List Char) : List Token :=
  ((wordsFrom pattern).filter (· ≠ [])).map fun word =>
    (literal? word).elim (.word (String.ofList word)) .literal

/-- Read the branches of a case and what it gives otherwise. -/
def readBranches : List Token → Option ((List (SqlValue × SqlValue) × SqlValue) × List Token)
  | .word "when" :: .literal key :: .word "then" :: .literal result :: rest =>
    (readBranches rest).map (Prod.map (Prod.map ((key, result) :: ·) id) id)
  | .word "else" :: .literal otherwise :: .word "end" :: rest => some (([], otherwise), rest)
  | _ => none

/-- Read one expression. The result is the expression and what is left. -/
def readOne : List Token → Option (CastExpression × List Token)
  | .word "?1" :: rest => some (operand, rest)
  | .word "sign" :: .word "(" :: rest => do
    let (e, .word ")" :: rest) ← readOne rest | none
    return (sign e, rest)
  | .word "abs" :: .word "(" :: rest => do
    let (e, .word ")" :: rest) ← readOne rest | none
    return (abs e, rest)
  | .word "cast" :: .word "(" :: rest => do
    let (e, .word "as" :: .word "?2" :: .word ")" :: rest) ← readOne rest | none
    return (cast e, rest)
  | .word "(" :: rest => do
    let (e, .word "<" :: .word ">" :: .literal v :: .word ")" :: rest) ← readOne rest | none
    return (differs e v, rest)
  | .word "case" :: rest => do
    let (e, rest) ← readOne rest
    let ((branches, otherwise), rest) ← readBranches rest
    return (simpleCase e branches otherwise, rest)
  | _ => none

/-- Read an expression that is all of a text. -/
def ofChars? (pattern : List Char) : Option CastExpression := do
  let (e, []) ← readOne (tokens pattern) | none
  return e

/-- The expression that a pattern is, if it is one. -/
def ofPattern? (pattern : String) : Option CastExpression := ofChars? pattern.toList

theorem ofPattern?_ofList (pattern : List Char) :
    ofPattern? (String.ofList pattern) = ofChars? pattern := by
  rw [ofPattern?, String.toList_ofList]

end CastExpression

end PortableSql
