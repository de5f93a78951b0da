import PortableSql.Backend
import PortableSql.CommandLine.Arguments
import PortableSql.Locking.RowLock
import PortableSql.Schema.ObjectName

/-! What the command line asks for. Options of the program stand before the command, those
of the command behind it. Anything that is missing, superfluous or not understood makes
the whole line invalid. -/

namespace PortableSql.CommandLine

inductive Command
  | typeName (code : TypeCode) (supplied : Size)
  | cast (source target : CastType) (operand typeName : String)
  | lock (mode : LockMode) (timeout : LockTimeout) (row : Option LockableRow)
  | batchSize (keys columns : Nat)
  | inList (column : String) (keys : Nat) (pad : Bool)
  | keywords
  | capabilities
  | dropTable (table : ObjectName)

structure Invocation where
  backend : Backend
  /-- The file with what the database reports about itself. -/
  reportFile : Option String
  verbose : Bool
  command : Command

private def valued (long : String) (short : Char) : OptionRule := ⟨long, some short, .plain⟩

def programRules : List OptionRule :=
  [valued "backend" 'b', valued "resolution-info" 'r', ⟨"verbose", some 'v', .none⟩]

/-- An optional value that has to be understood if it is given. -/
def understood {α : Type} (read : String → Option α) : Option String → Option (Option α)
  | none => some none
  | some text => (read text).map some

/-- The arguments of a command by its rules. -/
def sortCommand (rules : List OptionRule) (arguments : List String) : Option Sorted :=
  (sort rules false {} none false arguments).map Prod.fst

def maxUnsigned : Int := 4294967295

def digitCount? (text : String) : Option Nat := (integer? 0 maxUnsigned text).map Int.toNat

def parseTypeName (arguments : List String) : Option Command := do
  let s ← sortCommand [valued "length" 'l', valued "precision" 'p', valued "scale" 's'] arguments
  match s.operands with
  | [code] =>
    return .typeName (← TypeCode.ofText? code)
      { length := ← understood count? (s.value? "length")
        precision := ← understood digitCount? (s.value? "precision")
        scale := ← understood digitCount? (s.value? "scale") }
  | _ => none

def parseCast (arguments : List String) : Option Command := do
  let s ← sortCommand [valued "operand" 'o', valued "target-type" 't'] arguments
  match s.operands with
  | [target, source] =>
    return .cast (← CastType.ofText? source) (← CastType.ofText? target)
      ((s.value? "operand").getD "?") ((s.value? "target-type").getD "varchar(255)")
  | _ => none

def parseLock (arguments : List String) : Option Command := do
  let s ← sortCommand
    [ ⟨"timeout", some 't', .any⟩,
      ⟨"table", none, .plain⟩,
      ⟨"id-column", none, .plain⟩,
      ⟨"version-column", none, .plain⟩ ] arguments
  match s.operands with
  | [mode] =>
    let timeout ← understood (integer? (-2147483648) 2147483647) (s.value? "timeout")
    return .lock (← LockMode.ofText? mode) (timeout.getD LockTimeout.forever)
      ((s.value? "table").map fun table =>
        { table
          idColumns := [(s.value? "id-column").getD "id"]
          versionColumn := s.value? "version-column" })
  | _ => none

def parseBatchSize (arguments : List String) : Option Command := do
  let s ← sortCommand [valued "columns" 'c'] arguments
  match s.operands with
  | [keys] =>
    let columns ← understood count? (s.value? "columns")
    return .batchSize (← count? keys) (columns.getD 1)
  | _ => none

def parseInList (arguments : List String) : Option Command := do
  let s ← sortCommand [⟨"pad", none, .none⟩] arguments
  match s.operands with
  | [keys, column] => return .inList column (← count? keys) (s.isGiven "pad")
  | _ => none

/-- A command without options and operands. -/
def parsePlain (command : Command) (arguments : List String) : Option Command := do
  let s ← sortCommand [] arguments
  if s.operands = [] then some command else none

def parseDropTable (arguments : List String) : Option Command := do
  let s ← sortCommand [⟨"schema", none, .plain⟩] arguments
  match s.operands with
  | [name] => return .dropTable { name, schema := s.value? "schema" }
  | _ => none

def parseCommand (name : String) (arguments : List String) : Option Command :=
  match name with
  | "type-name" => parseTypeName arguments
  | "cast" => parseCast arguments
  | "lock" => parseLock arguments
  | "batch-size" => parseBatchSize arguments
  | "in-list" => parseInList arguments
  | "keywords" => parsePlain .keywords arguments
  | "capabilities" => parsePlain .capabilities arguments
  | "drop-table" => parseDropTable arguments
  | _ => none

/-- What the environment sets for options that are not given. -/
structure Environment where
  backend : Option String := none
  reportFile : Option String := none
  deriving DecidableEq, Repr

/-- The invocation that the arguments spell, where the environment fills in for the backend and
the file of reports. -/
def Invocation.parse? (environment : Environment) (arguments : List String) :
    Option Invocation := do
  let (s, rest) ← sort programRules true {} none false arguments
  match s.operands with
  | [name] =>
    let backend ← understood Backend.ofText? (s.value? "backend" <|> environment.backend)
    let reportFile := s.value? "resolution-info" <|> environment.reportFile
    if reportFile = some "" then none
    else return {
      backend := backend.getD .standard
      reportFile
      verbose := s.isGiven "verbose"
      command := ← parseCommand name rest }
  | _ => none

end PortableSql.CommandLine
