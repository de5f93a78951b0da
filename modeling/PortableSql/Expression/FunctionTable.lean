import Std.Data.TreeMap
import PortableSql.Event
import PortableSql.Expression.LargestPlace
import PortableSql.Failure
import PortableSql.Text.Case

/-! The functions of a dialect under their portable names. A name stands for a callable
function, native or emulated, or is an alias of another name. Names are compared in
small letters, and the table lists them in the order of their characters. A chain of
aliases is followed through eight look-ups at most, so cycles end. -/

namespace PortableSql

/-- How the call of a function is written. -/
inductive CallForm
  /-- `name(a,b)` under a name of the database. -/
  | native (sqlName : String)
  /-- A text without parentheses. -/
  | bare (sql : String)
  /-- A pattern with numbered places. -/
  | pattern (text : String)
  /-- Arguments between an opening and a closing text, with a separator. -/
  | joined (opening separator closing : String)
  deriving DecidableEq, Repr

def CallForm.render (form : CallForm) (arguments : List String) : String :=
  match form with
  | native sqlName => sqlName ++ "(" ++ ",".intercalate arguments ++ ")"
  | bare sql => sql
  | pattern text => fillPattern text arguments
  | joined opening separator closing => opening ++ separator.intercalate arguments ++ closing

structure Callable where
  form : CallForm
  arity : Arity
  deriving DecidableEq, Repr

inductive FunctionEntry
  | callable (f : Callable)
  | synonym (target : String)
  deriving DecidableEq, Repr

structure FunctionTable where
  entries : Std.TreeMap String FunctionEntry := {}

namespace FunctionTable

def empty : FunctionTable := {}

/-- Register an entry, in place of an earlier one of the same name. -/
def insert (t : FunctionTable) (name : String) (entry : FunctionEntry) : FunctionTable :=
  ⟨t.entries.insert (Text.lower name) entry⟩

def erase (t : FunctionTable) (name : String) : FunctionTable :=
  ⟨t.entries.erase (Text.lower name)⟩

/-- The changes that build a table. -/
inductive Change
  | register (name : String) (entry : FunctionEntry)
  | unregister (name : String)

def Change.apply : Change → FunctionTable → FunctionTable
  | register name entry, t => t.insert name entry
  | unregister name, t => t.erase name

namespace Change

/-- A native function under another name of the database. -/
def nativeAs (name sqlName : String) (least : Nat) (most : Option Nat) : Change :=
  .register name (.callable ⟨.native sqlName, ⟨least, most⟩⟩)

/-- A native function under its portable name. -/
def native (name : String) (least : Nat) (most : Option Nat) : Change :=
  nativeAs name name least most

/-- A function without arguments and parentheses. -/
def bare (name sql : String) : Change :=
  .register name (.callable ⟨.bare sql, .exactly 0⟩)

/-- An emulation that takes as many arguments as its pattern has places. -/
def pattern (name text : String) : Change :=
  .register name (.callable ⟨.pattern text, .exactly (largestOrdinal text)⟩)

/-- An operator form with any number of arguments from `least` on. -/
def joined (name opening separator closing : String) (least : Nat) : Change :=
  .register name (.callable ⟨.joined opening separator closing, ⟨least, none⟩⟩)

/-- Another name for `target`. -/
def synonym (alternate target : String) : Change :=
  .register alternate (.synonym (Text.lower target))

end Change

/-- Make changes in order. -/
def run (changes : List Change) (t : FunctionTable) : FunctionTable :=
  changes.foldl (fun t change => change.apply t) t

/-- One step along a chain of aliases. -/
structure AliasHop where
  source : String
  target : String
  deriving DecidableEq, Repr

/-- The aliases met from `key` on, and the function at their end, within `steps` look-ups. -/
def follow (t : FunctionTable) : Nat → String → List AliasHop × Option Callable
  | 0, _ => ([], none)
  | steps + 1, key =>
    match t.entries[key]? with
    | some (.callable f) => ([], some f)
    | some (.synonym target) =>
      let (hops, found) := t.follow steps target
      (⟨key, target⟩ :: hops, found)
    | none => ([], none)

/-- How many look-ups a chain of aliases may take. -/
def aliasDepth : Nat := 8

def find? (t : FunctionTable) (name : String) : Option Callable :=
  (t.follow aliasDepth (Text.lower name)).2

/-- The function that `name` stands for. -/
def resolve (t : FunctionTable) (name : String) : Except Failure Callable :=
  match t.find? name with
  | some f => .ok f
  | none => .error (.unknownFunction name)

/-- The aliases followed when `name` is looked up. -/
def aliasEvents (t : FunctionTable) (name : String) : List Event :=
  (t.follow aliasDepth (Text.lower name)).1.map fun hop =>
    ⟨.trace, "Following function alias", [.text "from" hop.source, .text "to" hop.target]⟩

def contains (t : FunctionTable) (name : String) : Bool := (t.find? name).isSome

/-- A call of the function `name` with rendered arguments. -/
def render (t : FunctionTable) (name : String) (arguments : List String) :
    Except Failure String := do
  let f ← t.resolve name
  if f.arity.accepts arguments.length then .ok (f.form.render arguments)
  else .error (.wrongArity name f.arity arguments.length)

/-- All names, aliases included, in order. -/
def names (t : FunctionTable) : List String := t.entries.keys

def size (t : FunctionTable) : Nat := t.entries.size

@[simp] theorem run_nil (t : FunctionTable) : run [] t = t := rfl

@[simp] theorem run_cons (c : Change) (cs : List Change) (t : FunctionTable) :
    run (c :: cs) t = run cs (c.apply t) := rfl

theorem run_append (cs ds : List Change) (t : FunctionTable) :
    run (cs ++ ds) t = run ds (run cs t) := List.foldl_append

end FunctionTable

end PortableSql
