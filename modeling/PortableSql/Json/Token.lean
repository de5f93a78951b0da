import PortableSql.Json.Basic

/-! The tokens of a JSON text. One pass over the characters keeps the token that is being
read: a string up to its closing quote, or a run of the characters that numbers or
words are made of. A run ends at the first character outside its class, so it is as
long as it can be. Strings, numbers and words are checked when they end. -/

namespace PortableSql.Json

inductive Token
  | beginObject | endObject | beginArray | endArray | colon | comma
  | null
  | bool (b : Bool)
  | int (n : Int)
  | real (spelling : String)
  | string (s : JsonString)
  deriving DecidableEq, Repr

/-- A character of a string, or a half of one given by a surrogate escape. -/
inductive StringPiece
  | char (c : Char)
  | surrogate (unit : Nat)

def isHighSurrogate (unit : Nat) : Bool := 0xD800 ≤ unit && unit < 0xDC00

def isLowSurrogate (unit : Nat) : Bool := 0xDC00 ≤ unit && unit < 0xE000

def hexValue? (c : Char) : Option Nat :=
  if c.isDigit then some (c.toNat - '0'.toNat)
  else if 'a' ≤ c ∧ c ≤ 'f' then some (c.toNat - 'a'.toNat + 10)
  else if 'A' ≤ c ∧ c ≤ 'F' then some (c.toNat - 'A'.toNat + 10)
  else none

def hexUnit? (a b c d : Char) : Option Nat := do
  return (((← hexValue? a) * 16 + (← hexValue? b)) * 16 + (← hexValue? c)) * 16 + (← hexValue? d)

def unitPiece (unit : Nat) : StringPiece :=
  if isHighSurrogate unit || isLowSurrogate unit then .surrogate unit else .char (Char.ofNat unit)

/-- The character that a letter behind a backslash stands for. -/
def shortEscape? : Char → Option Char
  | '\x22' => some '\x22'
  | '\\' => some '\\'
  | '/' => some '/'
  | 'b' => some '\x08'
  | 'f' => some '\x0c'
  | 'n' => some '\n'
  | 'r' => some '\r'
  | 't' => some '\t'
  | _ => none

/-- The pieces of what stands between quotes. Control characters have to be escaped. -/
def stringPieces? : List Char → Option (List StringPiece)
  | [] => some []
  | '\\' :: 'u' :: a :: b :: c :: d :: rest => do
    let unit ← hexUnit? a b c d
    let pieces ← stringPieces? rest
    return unitPiece unit :: pieces
  | '\\' :: e :: rest => do
    let c ← shortEscape? e
    let pieces ← stringPieces? rest
    return .char c :: pieces
  | c :: rest =>
    if c = '\\' ∨ c.toNat < 32 then none
    else (stringPieces? rest).map (.char c :: ·)

/-- The text of pieces in which surrogates stand in pairs. -/
def joinPieces? : List StringPiece → Option (List Char)
  | [] => some []
  | .char c :: rest => (joinPieces? rest).map (c :: ·)
  | .surrogate high :: .surrogate low :: rest =>
    if isHighSurrogate high && isLowSurrogate low then
      (joinPieces? rest).map
        (Char.ofNat (0x10000 + (high - 0xD800) * 0x400 + (low - 0xDC00)) :: ·)
    else none
  | .surrogate _ :: _ => none

/-- The string with this spelling between its quotes. -/
def stringOfSpelling? (spelling : List Char) : Option JsonString :=
  (stringPieces? spelling).map fun pieces =>
    match joinPieces? pieces with
    | some s => .text (String.ofList s)
    | none => .unpaired (String.ofList spelling)

/-- Digits without a zero in front of others. -/
def isWholeSpelling (digits : List Char) : Bool :=
  match digits with
  | [] => false
  | ['0'] => true
  | first :: rest => first ≠ '0' && first.isDigit && rest.all Char.isDigit

def isDigits (s : List Char) : Bool := s ≠ [] && s.all Char.isDigit

/-- An exponent with an optional sign. -/
def isExponent : List Char → Bool
  | '+' :: digits | '-' :: digits => isDigits digits
  | digits => isDigits digits

/-- Digits with an optional exponent behind them. -/
def isFraction (s : List Char) : Bool :=
  let (digits, rest) := s.span Char.isDigit
  digits ≠ [] && match rest with
    | [] => true
    | _ :: exponent => (rest.head? == some 'e' || rest.head? == some 'E') && isExponent exponent

/-- The number with this spelling. -/
def numberOfSpelling? (spelling : List Char) : Option Token :=
  let (negative, unsigned) := match spelling with
    | '-' :: rest => (true, rest)
    | _ => (false, spelling)
  let (whole, rest) := unsigned.span Char.isDigit
  let real := some (Token.real (String.ofList spelling))
  if !isWholeSpelling whole then none
  else
    match rest with
    | [] =>
      let n := Nat.ofDigitChars 10 whole 0
      if negative then if n = 0 then real else some (.int (-n)) else some (.int n)
    | '.' :: fraction => if isFraction fraction then real else none
    | 'e' :: exponent | 'E' :: exponent => if isExponent exponent then real else none
    | _ => none

def wordOfSpelling? (spelling : List Char) : Option Token :=
  if spelling = "null".toList then some .null
  else if spelling = "true".toList then some (.bool true)
  else if spelling = "false".toList then some (.bool false)
  else none

/-- The characters that numbers are written with. -/
def isNumberChar (c : Char) : Bool :=
  c.isDigit || c = '-' || c = '+' || c = '.' || c = 'e' || c = 'E'

/-- What is being read, its characters last one first. -/
inductive Reading
  | nothing
  | number (spelling : List Char)
  | word (spelling : List Char)
  | string (spelling : List Char)
  /-- The character after a backslash inside a string comes next. -/
  | escape (spelling : List Char)

/-- The state of the pass: the finished tokens, last one first, and the unfinished one. -/
structure Lexing where
  tokens : List Token
  reading : Reading

namespace Lexing

def start : Lexing := ⟨[], .nothing⟩

/-- A character where no token is unfinished. -/
def begin (tokens : List Token) (c : Char) : Option Lexing :=
  match c with
  | ' ' | '\t' | '\n' | '\r' => some ⟨tokens, .nothing⟩
  | '\x7b' => some ⟨.beginObject :: tokens, .nothing⟩
  | '\x7d' => some ⟨.endObject :: tokens, .nothing⟩
  | '[' => some ⟨.beginArray :: tokens, .nothing⟩
  | ']' => some ⟨.endArray :: tokens, .nothing⟩
  | ':' => some ⟨.colon :: tokens, .nothing⟩
  | ',' => some ⟨.comma :: tokens, .nothing⟩
  | '\x22' => some ⟨tokens, .string []⟩
  | _ =>
    if c.isDigit || c = '-' then some ⟨tokens, .number [c]⟩
    else if c.isAlpha then some ⟨tokens, .word [c]⟩
    else none

def step (l : Lexing) (c : Char) : Option Lexing :=
  match l.reading with
  | .nothing => begin l.tokens c
  | .number spelling =>
    if isNumberChar c then some ⟨l.tokens, .number (c :: spelling)⟩
    else (numberOfSpelling? spelling.reverse).bind fun token => begin (token :: l.tokens) c
  | .word spelling =>
    if c.isAlpha then some ⟨l.tokens, .word (c :: spelling)⟩
    else (wordOfSpelling? spelling.reverse).bind fun token => begin (token :: l.tokens) c
  | .string spelling =>
    if c = '\x22' then
      (stringOfSpelling? spelling.reverse).map fun s => ⟨.string s :: l.tokens, .nothing⟩
    else if c = '\\' then some ⟨l.tokens, .escape (c :: spelling)⟩
    else some ⟨l.tokens, .string (c :: spelling)⟩
  | .escape spelling => some ⟨l.tokens, .string (c :: spelling)⟩

/-- All tokens in order, once the text has ended. -/
def finish (l : Lexing) : Option (List Token) :=
  match l.reading with
  | .nothing => some l.tokens.reverse
  | .number spelling =>
    (numberOfSpelling? spelling.reverse).map fun token => (token :: l.tokens).reverse
  | .word spelling =>
    (wordOfSpelling? spelling.reverse).map fun token => (token :: l.tokens).reverse
  | .string _ | .escape _ => none

end Lexing

/-- The tokens of a text. -/
def tokens? (text : List Char) : Option (List Token) :=
  (text.foldlM Lexing.step Lexing.start).bind Lexing.finish

end PortableSql.Json
