import PortableSql.Number.Digits

/-! JSON documents. Two kinds of values are kept as they are spelled, since they stand for
nothing that a reader here could use: numbers that are not whole, and strings with an
unpaired surrogate escape, which spell no text. -/

namespace PortableSql

/-- A string of a document. -/
inductive JsonString
  | text (s : String)
  /-- Escapes pair surrogates wrongly; this is what stands between the quotes. -/
  | unpaired (spelling : String)
  deriving DecidableEq, Repr

inductive Json
  | null
  | bool (b : Bool)
  | int (n : Int)
  /-- A number with a fraction or an exponent, or a minus zero. -/
  | real (spelling : String)
  | string (s : JsonString)
  | array (items : List Json)
  | object (fields : List (JsonString × Json))

namespace Json

def text (s : String) : Json := .string (.text s)

def nat (n : Nat) : Json := .int n

/-- The value of an option, `null` for none. -/
def option {α : Type} (f : α → Json) : Option α → Json
  | some a => f a
  | none => .null

/-- An object whose keys are all text. -/
def record (fields : List (String × Json)) : Json :=
  .object (fields.map fun f => (.text f.1, f.2))

end Json

/-- A character of a string as it is written in a document. Quotes, backslashes and control
characters are escaped, and nothing else is. -/
def escapeJsonChar (c : Char) : List Char :=
  if c = '\x22' then ['\\', '\x22']
  else if c = '\\' then ['\\', '\\']
  else if c.toNat = 8 then ['\\', 'b']
  else if c.toNat = 9 then ['\\', 't']
  else if c.toNat = 10 then ['\\', 'n']
  else if c.toNat = 12 then ['\\', 'f']
  else if c.toNat = 13 then ['\\', 'r']
  else if c.toNat < 32 then
    ['\\', 'u', '0', '0', Nat.digitChar (c.toNat / 16), Nat.digitChar (c.toNat % 16)]
  else [c]

def JsonString.spelling : JsonString → List Char
  | .text s => s.toList.flatMap escapeJsonChar
  | .unpaired spelling => spelling.toList

/-- The string between its quotes. -/
def JsonString.render (s : JsonString) : String :=
  String.ofList ('\x22' :: s.spelling ++ ['\x22'])

namespace Json

/-- The document in one line without blanks. -/
def compact : Json → String
  | null => "null"
  | bool b => if b then "true" else "false"
  | int n => toString n
  | real spelling => spelling
  | string s => s.render
  | array items => "[" ++ ",".intercalate (compactItems items) ++ "]"
  | object fields => "\x7b" ++ ",".intercalate (compactFields fields) ++ "\x7d"
where
  compactItems : List Json → List String
    | [] => []
    | item :: rest => compact item :: compactItems rest
  compactFields : List (JsonString × Json) → List String
    | [] => []
    | (key, value) :: rest => (key.render ++ ":" ++ compact value) :: compactFields rest

/-- Items on lines of their own, two blanks further in, between brackets. -/
def block (indent : String) (opening closing : String) (items : List String) : String :=
  if items = [] then opening ++ closing
  else
    opening ++ "\n  " ++ indent ++ (",\n  " ++ indent).intercalate items ++ "\n" ++ indent ++
      closing

/-- The document with every item on a line of its own. -/
def prettyAt (indent : String) : Json → String
  | null => "null"
  | bool b => if b then "true" else "false"
  | int n => toString n
  | real spelling => spelling
  | string s => s.render
  | array items => block indent "[" "]" (prettyItems (indent ++ "  ") items)
  | object fields => block indent "\x7b" "\x7d" (prettyFields (indent ++ "  ") fields)
where
  prettyItems (indent : String) : List Json → List String
    | [] => []
    | item :: rest => prettyAt indent item :: prettyItems indent rest
  prettyFields (indent : String) : List (JsonString × Json) → List String
    | [] => []
    | (key, value) :: rest =>
      (key.render ++ ": " ++ prettyAt indent value) :: prettyFields indent rest

def pretty (j : Json) : String := j.prettyAt ""

end Json

end PortableSql
