import PortableSql.Database.Profile

/-! DuckDB. Types carry no sizes, and unique keys are part of the definition of a table. -/

namespace PortableSql.Duckdb

def config : Config :=
  { Config.standard with
    name := "duckdb"
    capabilities := Capabilities.standard.enable
      [.ifExistsBeforeTableName, .commentOn, .createTableIfNotExists, .tupleDistinctCounts,
        .lateral, .distinctFromPredicate, .caseInsensitiveLike, .insertReturning,
        .standardArrays, .ifExistsOnDropSequence]
      |>.disable [.dropConstraints, .alterTableForeignKeys, .outerJoinForUpdate]
    locking := .absent
    sequences :=
      { SequenceSupport.standard with
        nextValue := "nextval('$n')"
        selectNextValue := "select $v" }
    identity := { IdentitySupport.standard with supported := false }
    trueLiteral := "true"
    falseLiteral := "false"
    momentLiterals := .ansi
    noColumnsInsert := "default values"
    currentTimestampSelect := "select current_timestamp" }

open TypeNameTable.Change in
def typeNames : List TypeNameTable.Change :=
  [ register .float "float",
    register .double "double",
    register .timestamp "timestamp",
    register .timestampWithTimezone "timestamptz",
    register .timeWithTimezone "timetz" ] ++
  registerEach [.binary, .varbinary, .longVarbinary] "blob" ++
  registerEach [.varchar, .char, .nchar, .nvarchar, .clob, .nclob] "varchar"

open FunctionTable.Change in
def functions : List FunctionTable.Change :=
  [ native "log10" 1 (some 1),
    nativeAs "ceiling" "ceil" 1 (some 1),
    pattern "str" "cast(?1 as varchar)" ]

def profile : Profile :=
  { config := fun _ => config
    typeNames := fun _ => typeNames
    keywords := ["pivot", "qualify", "unpivot"]
    functions := functions
    uniqueKeys := .createTable }

end PortableSql.Duckdb
