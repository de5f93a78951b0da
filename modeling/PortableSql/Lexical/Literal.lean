import PortableSql.Lexical.Moment

/-! Literals: values written into the text of a statement. A quote inside a string is
written twice. Dates and times are written in the standard form or in the escape form
that drivers replace. -/

namespace PortableSql

/-- How date and time literals are written. -/
inductive MomentStyle
  /-- A letter and the text in braces, for drivers to replace. -/
  | escaped
  /-- The name of the type before the text. -/
  | ansi
  deriving DecidableEq, Repr

def MomentStyle.name : MomentStyle → String
  | escaped => "jdbc_escape"
  | ansi => "ansi"

def MomentStyle.ofName? (name : String) : Option MomentStyle :=
  [escaped, ansi].find? (·.name == name)

namespace Literal

/-- The character around string literals. -/
def quoteMark : Char := '\x27'

/-- The characters of a string with each quote doubled. -/
def escape (s : List Char) : List Char :=
  s.flatMap fun c => if c = quoteMark then [c, c] else [c]

def stringChars (s : List Char) : List Char := quoteMark :: escape s ++ [quoteMark]

def string (s : String) : String := String.ofList (stringChars s.toList)

/-- Bytes in hexadecimal. -/
def binary (bytes : List Nat) : String :=
  "X'" ++ String.ofList (bytes.flatMap Number.hexPair) ++ "'"

/-- A quoted text behind the name of its type, or behind a letter and in braces. -/
def moment (style : MomentStyle) (typeName letters : String) (text : List Char) : String :=
  match style with
  | .escaped => "\x7b" ++ letters ++ " '" ++ String.ofList text ++ "'\x7d"
  | .ansi => typeName ++ " '" ++ String.ofList text ++ "'"

def date (style : MomentStyle) (d : CalendarDate) : String := moment style "date" "d" d.chars

def time (style : MomentStyle) (t : ClockTime) : String := moment style "time" "t" t.chars

def timestamp (style : MomentStyle) (m : LocalMoment) : String :=
  moment style "timestamp" "ts" m.chars

/-- A moment with its offset has the standard form only. -/
def offsetTimestamp (m : OffsetMoment) : String :=
  moment .ansi "timestamp with time zone" "" m.chars

def interval (s : TimeSpan) : String := "interval '" ++ String.ofList s.chars ++ "' second"

end Literal

end PortableSql
