/-! Sorting command line arguments into options and operands. An option has a long name
behind two hyphens and perhaps a letter behind one. Its value is the next argument, or
follows an equals sign, or follows the letter directly; letters of options without a
value can share a hyphen. After two hyphens alone everything is an operand. An option
may be given once. -/

namespace PortableSql.CommandLine

/-- What may follow an option. -/
inductive OptionValue
  | none
  /-- A value that does not look like an option, unless it is attached. -/
  | plain
  /-- Any value. -/
  | any
  deriving DecidableEq, Repr

structure OptionRule where
  long : String
  short : Option Char
  value : OptionValue
  deriving DecidableEq, Repr

/-- The options found so far, with their values, and the operands, the last ones first. -/
structure Sorted where
  options : List (String × String) := []
  operands : List String := []
  deriving DecidableEq, Repr

namespace Sorted

/-- The value given for an option. -/
def value? (s : Sorted) (long : String) : Option String :=
  (s.options.find? (·.1 == long)).map Prod.snd

def isGiven (s : Sorted) (long : String) : Bool := (s.value? long).isSome

/-- Note an option, unless it was given before. -/
def note? (s : Sorted) (rule : OptionRule) (value : String) : Option Sorted :=
  if s.isGiven rule.long then none else some { s with options := (rule.long, value) :: s.options }

end Sorted

/-- Does an argument look like an option? A single hyphen does not. -/
def looksLikeOption (argument : String) : Bool :=
  match argument.toList with
  | '-' :: _ :: _ => true
  | _ => false

/-- A cluster of letters. An option that still needs its value is returned. -/
def sortLetters (rules : List OptionRule) (s : Sorted) :
    List Char → Option (Sorted × Option OptionRule)
  | [] => some (s, none)
  | letter :: rest => do
    let rule ← rules.find? (·.short == some letter)
    match rule.value, rest with
    | .none, _ => sortLetters rules (← s.note? rule "") rest
    | _, [] => return (s, some rule)
    | _, '=' :: value => return (← s.note? rule (String.ofList value), none)
    | _, value => return (← s.note? rule (String.ofList value), none)

/-- A long option, with its value if an equals sign follows. -/
def sortLong (rules : List OptionRule) (s : Sorted) (text : List Char) :
    Option (Sorted × Option OptionRule) := do
  let (name, attached) := text.span (· != '=')
  let rule ← rules.find? (·.long == String.ofList name)
  match rule.value, attached with
  | .none, [] => return (← s.note? rule "", none)
  | .none, _ => none
  | _, [] => return (s, some rule)
  | _, _ :: value => return (← s.note? rule (String.ofList value), none)

/-- Sort arguments, up to the first operand if `stop` is set. What follows that operand is
returned with it; `pending` is an option that waits for its value. -/
def sort (rules : List OptionRule) (stop : Bool) :
    Sorted → Option OptionRule → Bool → List String → Option (Sorted × List String)
  | s, pending, _, [] => if pending.isSome then none else some (s, [])
  | s, some rule, escaped, argument :: rest =>
    if rule.value = .any ∨ ¬ looksLikeOption argument then do
      sort rules stop (← s.note? rule argument) none escaped rest
    else none
  | s, none, true, argument :: rest =>
    if stop then none
    else sort rules stop { s with operands := argument :: s.operands } none true rest
  | s, none, false, argument :: rest =>
    match argument.toList with
    | ['-', '-'] => sort rules stop s none true rest
    | '-' :: '-' :: long => do
      let (s, pending) ← sortLong rules s long
      sort rules stop s pending false rest
    | '-' :: letter :: letters => do
      let (s, pending) ← sortLetters rules s (letter :: letters)
      sort rules stop s pending false rest
    | _ =>
      if stop then some ({ s with operands := argument :: s.operands }, rest)
      else sort rules stop { s with operands := argument :: s.operands } none false rest

/-- The digits of a number, at least one. -/
def digits? (s : List Char) : Option Nat :=
  if s ≠ [] ∧ s.all Char.isDigit then some (Nat.ofDigitChars 10 s 0) else none

/-- A number without sign or with a plus, below `2 ^ 64`. -/
def count? (text : String) : Option Nat := do
  let n ← match text.toList with
    | '+' :: digits => digits? digits
    | digits => digits? digits
  if n < UInt64.size then some n else none

/-- A number with any sign between two bounds. -/
def integer? (least greatest : Int) (text : String) : Option Int := do
  let n : Int ← match text.toList with
    | '+' :: digits => (digits? digits).map Int.ofNat
    | '-' :: digits => (digits? digits).map fun n => -Int.ofNat n
    | digits => (digits? digits).map Int.ofNat
  if least ≤ n ∧ n ≤ greatest then some n else none

end PortableSql.CommandLine
