import PortableSql.ColumnType.StandardNames
import PortableSql.Expression.CastMatrix
import PortableSql.Expression.StandardFunctions
import PortableSql.Lexical.KeywordSet

/-! The tables of a dialect and the changes that build them: type names of columns and of
results, reserved words, casts and functions. -/

namespace PortableSql

structure Registrations where
  typeNames : TypeNameTable := {}
  resultTypeNames : TypeNameTable := {}
  keywords : KeywordSet := {}
  casts : CastMatrix := {}
  functions : FunctionTable := {}

namespace Registrations

def empty : Registrations := {}

/-- The tables that every database starts from. -/
def standard : Registrations :=
  { typeNames := .standardColumns
    resultTypeNames := .standardResults
    keywords := .sql2003
    casts := .standard
    functions := .standard }

/-- A change to one of the tables. -/
inductive Change
  | typeName (change : TypeNameTable.Change)
  | resultTypeName (change : TypeNameTable.Change)
  | keyword (change : KeywordSet.Change)
  | cast (change : CastMatrix.Change)
  | function (change : FunctionTable.Change)

def Change.apply : Change → Registrations → Registrations
  | typeName change, r => { r with typeNames := change.apply r.typeNames }
  | resultTypeName change, r => { r with resultTypeNames := change.apply r.resultTypeNames }
  | keyword change, r => { r with keywords := change.apply r.keywords }
  | cast change, r => { r with casts := change.apply r.casts }
  | function change, r => { r with functions := change.apply r.functions }

/-- What a change reports. -/
def Change.events : Change → List Event
  | keyword (.report text) => KeywordSet.reportEvents text
  | _ => []

/-- Make changes in order. -/
def run (changes : List Change) (r : Registrations) : Registrations :=
  changes.foldl (fun r change => change.apply r) r

@[simp] theorem run_nil (r : Registrations) : run [] r = r := rfl

@[simp] theorem run_cons (c : Change) (cs : List Change) (r : Registrations) :
    run (c :: cs) r = run cs (c.apply r) := rfl

end Registrations

end PortableSql
