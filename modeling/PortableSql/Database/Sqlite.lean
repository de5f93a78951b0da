import PortableSql.Database.Profile

/-! SQLite. There are no row locks and no schemas, and constraints cannot be added to a
table that exists, so unique keys are part of its definition. Column types are the
affinities of SQLite. -/

namespace PortableSql.Sqlite

/-- The most bind markers of a statement before version 3.32. -/
def legacyMarkerLimit : Int := 999

/-- The most bind markers of a statement since then. -/
def markerLimit : Int := 32766

def config (v : Version) : Config :=
  { Config.standard with
    name := "sqlite"
    capabilities := Capabilities.standard.enable
      [.ifExistsBeforeTableName, .createTableIfNotExists]
      |>.disable
        [.dropConstraints, .qualifyIndexName, .alterTableForeignKeys, .canCreateSchema, .lateral,
          .windowFunctions, .fetchClause, .nullsOrdering, .outerJoinForUpdate, .nativeBoolean]
      |>.enable (if v.atLeast ⟨3, 25⟩ then [.windowFunctions] else [])
      |>.enable (if v.atLeast ⟨3, 30⟩ then [.nullsOrdering] else [])
      |>.enable (if v.atLeast ⟨3, 35⟩ then [.insertReturning] else [])
    locking := .absent
    sequences := .absent
    identity :=
      { IdentitySupport.standard with
        columnClause := ""
        selectLast := some "select last_insert_rowid()" }
    booleanRepresentation := .integerBoolean
    inListCeiling := if v.atLeast ⟨3, 32⟩ then markerLimit else legacyMarkerLimit
    noColumnsInsert := "default values"
    trim := .functions
    currentTimestampSelect := "select current_timestamp" }

open TypeNameTable.Change in
def typeNames : List TypeNameTable.Change :=
  registerEach [.boolean, .bit, .tinyint, .smallint, .integer, .bigint] "integer" ++
  registerEach [.real, .float, .double] "real" ++
  registerEach [.numeric, .decimal] "numeric" ++
  registerEach [.char, .varchar, .longVarchar, .clob, .nchar, .nvarchar, .longNvarchar, .nclob,
    .date, .time, .timeWithTimezone, .timestamp, .timestampWithTimezone] "text" ++
  registerEach [.binary, .varbinary, .longVarbinary, .blob] "blob"

open FunctionTable.Change in
def functions : List FunctionTable.Change :=
  [ pattern "length" "length(?1)",
    pattern "position" "instr(?2,?1)",
    pattern "locate" "instr(?2,?1)",
    native "ifnull" 2 (some 2),
    pattern "str" "cast(?1 as text)",
    nativeAs "least" "min" 2 none,
    nativeAs "greatest" "max" 2 none,
    bare "local_time" "current_time",
    bare "local_datetime" "current_timestamp" ]

def profile : Profile :=
  { config := config
    typeNames := fun _ => typeNames
    keywords := ["abort", "attach", "autoincrement", "conflict", "detach", "glob", "indexed",
      "isnull", "notnull", "pragma", "raise", "regexp", "replace", "vacuum"]
    functions := functions
    uniqueKeys := .createTable }

end PortableSql.Sqlite
