import PortableSql.Database.Profile

/-! PostgreSQL. -/

namespace PortableSql.Postgresql

/-- The longest `varchar` that is accepted. -/
def maxVarcharLength : Nat := 10485760

def config (v : Version) : Config :=
  { Config.standard with
    name := "postgresql"
    capabilities := Capabilities.standard.enable
      [.ifExistsBeforeTableName, .ifExistsBeforeConstraintName, .ifExistsAfterAlterTable,
        .commentOn, .createTableIfNotExists, .tupleDistinctCounts, .lateral,
        .distinctFromPredicate, .caseInsensitiveLike, .insertReturning, .standardArrays,
        .refCursors, .ifExistsOnDropSequence]
      |>.disable [.outerJoinForUpdate]
    ddl := { DdlWords.standard with cascadeConstraints := " cascade" }
    locking :=
      { LockClauses.standard with
        forShare := some " for share"
        nowait := some " nowait"
        skipLocked := if v.atLeast ⟨9, 5⟩ then some " skip locked" else none
        target := .table }
    sequences :=
      { SequenceSupport.standard with
        nextValue := "nextval('$n')"
        selectNextValue := "select $v" }
    trueLiteral := "true"
    falseLiteral := "false"
    momentLiterals := .ansi
    maxIdentifierLength := some 63
    noColumnsInsert := "default values"
    currentTimestampSelect := "select now()"
    refCursorType := some "refcursor" }

open TypeNameTable.Change in
def typeNames : List TypeNameTable.Change :=
  [ register .tinyint "smallint",
    register .binary "bytea",
    register .varbinary "bytea",
    register .longVarbinary "bytea",
    register .blob "bytea",
    register .clob "text",
    register .nclob "text",
    register .longVarchar "text",
    register .longNvarchar "text",
    register .nchar "char($l)",
    registerUpTo .varchar maxVarcharLength "varchar($l)",
    register .varchar "text",
    registerUpTo .nvarchar maxVarcharLength "varchar($l)",
    register .nvarchar "text" ]

open FunctionTable.Change in
def functions : List FunctionTable.Change :=
  [ pattern "str" "cast(?1 as text)",
    native "log10" 1 (some 1),
    nativeAs "ceiling" "ceil" 1 (some 1) ]

def profile : Profile :=
  { config := config
    typeNames := fun _ => typeNames
    keywords := ["analyse", "analyze", "concurrently", "freeze", "ilike", "limit", "notnull",
      "offset", "placing", "returning", "variadic", "verbose"]
    functions := functions
    casts := [.set .string .boolean "cast(?1 as boolean)"] }

end PortableSql.Postgresql
