import PortableSql.ColumnType.Size
import PortableSql.Text.Ascii
import PortableSql.Text.Digraph

/-! Tables of type names. A database registers name patterns for type codes, each either
up to a ceiling, the largest capacity the type can hold, or without one. A request is
answered by the pattern with the smallest ceiling that suffices, or else by the one
without ceiling. Patterns have places for length, precision and scale; a place is
filled when the size has the dimension and left as it stands otherwise. -/

namespace PortableSql

/-- The place of the length in a type name pattern. -/
def lengthPlace : Text.Digraph := ⟨'$', 'l'⟩

/-- The place of the precision. -/
def precisionPlace : Text.Digraph := ⟨'$', 'p'⟩

/-- The place of the scale. -/
def scalePlace : Text.Digraph := ⟨'$', 's'⟩

/-- Fill the first place of a dimension, if the dimension is given. -/
def fillPlace (place : Text.Digraph) (value : Option Nat) (pattern : List Char) : List Char :=
  match value with
  | some n => place.replaceFirst (toString n).toList pattern
  | none => pattern

def Size.fillChars (size : Size) (pattern : List Char) : List Char :=
  fillPlace precisionPlace size.precision
    (fillPlace lengthPlace size.length (fillPlace scalePlace size.scale pattern))

/-- The type name a pattern stands for at a size. -/
def Size.fill (size : Size) (pattern : String) : String :=
  String.ofList (size.fillChars pattern.toList)

/-- Does a type name have an open place? -/
def hasOpenPlace (typeName : String) : Bool :=
  [lengthPlace, precisionPlace, scalePlace].any (·.occursIn typeName.toList)

/-- The part of a pattern before its parenthesised size, the whole pattern if that is empty. -/
def bareTypeName (pattern : String) : String :=
  let (name, sized) := pattern.toList.span (· != '(')
  if name = [] || sized = [] then pattern else String.ofList name

/-- One registered pattern. Without a ceiling it serves every capacity. -/
structure TypeName where
  code : TypeCode
  ceiling : Option Nat
  pattern : String
  deriving DecidableEq, Repr

/-- The surviving registrations, at most one for each code and ceiling, latest first. -/
structure TypeNameTable where
  registered : List TypeName := []
  deriving DecidableEq, Repr

namespace TypeNameTable

def empty : TypeNameTable := {}

/-- Register a pattern, in place of an earlier one for the same code and ceiling. -/
def insert (t : TypeNameTable) (n : TypeName) : TypeNameTable :=
  ⟨n :: t.registered.filter fun m => !(m.code = n.code && m.ceiling = n.ceiling)⟩

/-- Drop everything registered for a code. -/
def erase (t : TypeNameTable) (code : TypeCode) : TypeNameTable :=
  ⟨t.registered.filter (·.code ≠ code)⟩

/-- The changes that build a table. -/
inductive Change
  | register (code : TypeCode) (pattern : String)
  | registerUpTo (code : TypeCode) (ceiling : Nat) (pattern : String)
  | unregister (code : TypeCode)

def Change.apply : Change → TypeNameTable → TypeNameTable
  | register code pattern, t => t.insert ⟨code, none, pattern⟩
  | registerUpTo code ceiling pattern, t => t.insert ⟨code, some ceiling, pattern⟩
  | unregister code, t => t.erase code

/-- Make changes in order. -/
def run (changes : List Change) (t : TypeNameTable) : TypeNameTable :=
  changes.foldl (fun t change => change.apply t) t

@[simp] theorem run_nil (t : TypeNameTable) : run [] t = t := rfl

@[simp] theorem run_cons (c : Change) (cs : List Change) (t : TypeNameTable) :
    run (c :: cs) t = run cs (c.apply t) := rfl

theorem run_append (cs ds : List Change) (t : TypeNameTable) :
    run (cs ++ ds) t = run ds (run cs t) := List.foldl_append

/-- The pattern registered for a code without a ceiling. -/
def unbounded? (t : TypeNameTable) (code : TypeCode) : Option String :=
  (t.registered.find? fun n => n.code = code && n.ceiling = none).map TypeName.pattern

/-- The ceilings of a code that hold a capacity, with their patterns. -/
def sufficient (t : TypeNameTable) (code : TypeCode) (capacity : Nat) : List (Nat × String) :=
  t.registered.filterMap fun n =>
    match n.ceiling with
    | some ceiling =>
      if n.code = code ∧ capacity ≤ ceiling then some (ceiling, n.pattern) else none
    | none => none

/-- The entry with the smallest first component, of equals the first. -/
def smallest? : List (Nat × String) → Option (Nat × String)
  | [] => none
  | x :: rest =>
    match smallest? rest with
    | some y => if y.1 < x.1 then some y else some x
    | none => some x

/-- The pattern that answers a request: the tightest sufficient ceiling, or no ceiling. -/
def pattern? (t : TypeNameTable) (code : TypeCode) (size : Size) : Option String :=
  (size.capacity.bind fun capacity => (smallest? (t.sufficient code capacity)).map Prod.snd)
    <|> t.unbounded? code

/-- The type name for a code at a size. -/
def get? (t : TypeNameTable) (code : TypeCode) (size : Size) : Option String :=
  (t.pattern? code size).map size.fill

def containsCode (t : TypeNameTable) (code : TypeCode) : Bool :=
  t.registered.any (·.code = code)

/-- Is the name a registered pattern or the bare name of one, in any letter case of ASCII? -/
def containsName (t : TypeNameTable) (name : String) : Bool :=
  t.registered.any fun n =>
    Text.equalIgnoringCase n.pattern name || Text.equalIgnoringCase (bareTypeName n.pattern) name

/-- The number of registered patterns. -/
def size (t : TypeNameTable) : Nat := t.registered.length

end TypeNameTable

end PortableSql
