import PortableSql.Database.Profile

/-! Oracle Database. Version 12 brings identity columns and longer names, version 23 a
native boolean type. -/

namespace PortableSql.Oracle

def maxVarcharLength : Nat := 4000

def maxNvarcharLength : Nat := 2000

def maxRawLength : Nat := 2000

def config (v : Version) : Config :=
  let twelve := v.atLeast ⟨12, 0⟩
  let modern := v.atLeast ⟨23, 0⟩
  { Config.standard with
    name := "oracle"
    capabilities := Capabilities.standard.enable [.commentOn, .refCursors, .queryHints]
      |>.disable
        [.canCreateSchema, .existsInSelect, .fetchClause, .nativeBoolean, .valueListsForInsert]
      |>.enable (if twelve then [.fetchClause] else [])
      |>.enable
        (if modern then [.ifExistsBeforeTableName, .createTableIfNotExists, .nativeBoolean]
          else [])
    ddl :=
      { DdlWords.standard with
        cascadeConstraints := " cascade constraints"
        addColumn := "add" }
    locking :=
      { LockClauses.standard with
        nowait := some " nowait"
        skipLocked := some " skip locked"
        wait := some " wait "
        target := .column
        withOrderBy := false }
    sequences :=
      { SequenceSupport.standard with
        nextValue := "$n.nextval"
        selectNextValue := "select $v from dual" }
    identity := { IdentitySupport.standard with supported := twelve }
    booleanRepresentation := if modern then .boolean else .integerBoolean
    trueLiteral := if modern then "true" else "1"
    falseLiteral := if modern then "false" else "0"
    momentLiterals := .ansi
    inListCeiling := 1000
    maxIdentifierLength := some (if twelve then 128 else 30)
    noColumnsInsert := "values (default)"
    currentTimestampSelect := "select current_timestamp from dual"
    refCursorType := some "sys_refcursor" }

open TypeNameTable.Change in
def typeNames (v : Version) : List TypeNameTable.Change :=
  [ register .bit "number(1,0)",
    register .tinyint "number(3,0)",
    register .smallint "number(5,0)",
    register .integer "number(10,0)",
    register .bigint "number(19,0)",
    register .real "float(24)",
    register .double "float(53)",
    register .numeric "number($p,$s)",
    register .decimal "number($p,$s)",
    register .time "date",
    register .timeWithTimezone "timestamp($p) with time zone",
    registerUpTo .binary maxRawLength "raw($l)",
    register .binary "blob",
    registerUpTo .varbinary maxRawLength "raw($l)",
    register .varbinary "blob",
    register .longVarbinary "blob",
    register .char "char($l char)",
    registerUpTo .varchar maxVarcharLength "varchar2($l char)",
    register .varchar "clob",
    register .longVarchar "clob",
    registerUpTo .nvarchar maxNvarcharLength "nvarchar2($l)",
    register .nvarchar "nclob",
    register .longNvarchar "nclob" ] ++
  (if v.atLeast ⟨23, 0⟩ then [] else [register .boolean "number(1,0)"])

open FunctionTable.Change in
def functions : List FunctionTable.Change :=
  [ pattern "length" "length(?1)",
    pattern "position" "instr(?2,?1)",
    pattern "locate" "instr(?2,?1)",
    pattern "ifnull" "nvl(?1,?2)",
    pattern "str" "to_char(?1)",
    nativeAs "ceiling" "ceil" 1 (some 1),
    bare "current_time" "current_timestamp",
    bare "local_time" "localtimestamp" ]

def profile : Profile :=
  { config := config
    typeNames := typeNames
    keywords := ["access", "audit", "cluster", "comment", "compress", "exclusive", "file",
      "identified", "level", "lock", "long", "minus", "mode", "noaudit", "nocompress", "nowait",
      "number", "offline", "online", "pctfree", "prior", "raw", "rename", "resource", "rowid",
      "rownum", "share", "size", "synonym", "sysdate", "uid", "validate", "varchar2", "view"]
    functions := functions }

end PortableSql.Oracle
