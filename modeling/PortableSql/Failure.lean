import PortableSql.ColumnType.TypeCode

/-! Why a request can be refused. Every failure is local and final: only a different
request helps. The causes are told apart by constructors; the wording is in
`Failure.message` and the descriptions it uses. -/

namespace PortableSql

/-- What a database may be unable to do when it is asked to. -/
inductive Feature
  | identityColumns
  | alterTable
  | alterTableForeignKeys
  | alterTableUniqueKeys
  | sequences
  | pooledSequences
  | createSchema
  | dropSchema
  | createCatalog
  | dropCatalog
  | currentTimestampSelection
  | refCursors
  deriving DecidableEq, Repr

def Feature.describe : Feature → String
  | identityColumns => "identity columns"
  | alterTable => "alter table"
  | alterTableForeignKeys => "adding foreign keys with alter table"
  | alterTableUniqueKeys => "alter table unique constraints"
  | sequences => "sequences"
  | pooledSequences => "pooled sequences"
  | createSchema => "create schema"
  | dropSchema => "drop schema"
  | createCatalog => "create catalog"
  | dropCatalog => "drop catalog"
  | currentTimestampSelection => "current timestamp selection"
  | refCursors => "ref cursor results"

/-- Requests that contradict themselves or the configuration. -/
inductive Conflict
  | ifExistsAroundTable (dialect : String)
  | ifExistsAroundConstraint (dialect : String)
  | zeroIncrement (sequence : String)
  | missingVersionColumn (mode table : String)
  deriving DecidableEq, Repr

def Conflict.describe : Conflict → String
  | ifExistsAroundTable dialect =>
    "dialect '" ++ dialect ++ "' enables 'if exists' both before and after the table name"
  | ifExistsAroundConstraint dialect =>
    "dialect '" ++ dialect ++ "' enables 'if exists' both before and after the constraint name"
  | zeroIncrement sequence => "sequence '" ++ sequence ++ "' has an increment of zero"
  | missingVersionColumn mode table => mode ++ " requires a version column on " ++ table

/-- How many arguments a function takes. -/
structure Arity where
  least : Nat
  most : Option Nat
  deriving DecidableEq, Repr

namespace Arity

def exactly (n : Nat) : Arity := ⟨n, some n⟩

def accepts (a : Arity) (count : Nat) : Bool :=
  a.least ≤ count && match a.most with
    | some most => count ≤ most
    | none => true

def describe (a : Arity) : String :=
  match a.most with
  | some most =>
    if most = a.least then toString most else toString a.least ++ ".." ++ toString most
  | none => "at least " ++ toString a.least

theorem accepts_iff {a : Arity} {count : Nat} :
    a.accepts count = true ↔ a.least ≤ count ∧ ∀ most, a.most = some most → count ≤ most := by
  cases h : a.most <;> simp [accepts, h]

end Arity

/-- The kinds of things that are asked for by name. -/
inductive NameKind
  | typeCode | castType | lockMode | backend
  deriving DecidableEq, Repr

def NameKind.describe : NameKind → String
  | typeCode => "type code"
  | castType => "cast type"
  | lockMode => "lock mode"
  | backend => "backend"

inductive Failure
  /-- No type name is registered, for the code or for its short form. -/
  | noMapping (code : TypeCode) (length : Option Nat)
  | unsupported (dialect : String) (feature : Feature)
  | conflict (cause : Conflict)
  /-- A type name still has an open placeholder. -/
  | unresolvedPlaceholder (code : TypeCode) (typeName : String)
  | unknownFunction (name : String)
  | wrongArity (name : String) (expected : Arity) (actual : Nat)
  | unknownName (kind : NameKind) (name : String)
  /-- A reported limit on list lengths is below zero. -/
  | negativeCeiling (ceiling : Int)
  /-- A document is not well-formed or does not have the expected shape. -/
  | malformedDocument
  /-- A file cannot be read. -/
  | unreadableFile
  deriving DecidableEq, Repr

def Failure.message : Failure → String
  | noMapping code length =>
    "No type mapping for type code " ++ code.name ++ " (length: " ++
      (match length with | some n => toString n | none => "none") ++ ")"
  | unsupported dialect feature =>
    "Dialect '" ++ dialect ++ "' does not support " ++ feature.describe
  | conflict cause => "Conflicting dialect configuration: " ++ cause.describe
  | unresolvedPlaceholder code typeName =>
    "Type pattern '" ++ typeName ++ "' for " ++ code.name ++ " has an unresolved size placeholder"
  | unknownFunction name => "Unknown function: " ++ name
  | wrongArity name expected actual =>
    "Function '" ++ name ++ "' expects " ++ expected.describe ++ " argument(s), got " ++
      toString actual
  | unknownName kind name => "Unknown " ++ kind.describe ++ ": '" ++ name ++ "'"
  | negativeCeiling ceiling =>
    "Invalid resolution info: in_list_ceiling must not be negative, got " ++ toString ceiling
  | malformedDocument => "Serialization error"
  | unreadableFile => "IO error"

/-- The code a text names, or the failure that says what was not understood. -/
def TypeCode.parse (text : String) : Except Failure TypeCode :=
  match TypeCode.ofText? text with
  | some code => .ok code
  | none => .error (.unknownName .typeCode text)

end PortableSql
