import PortableSql.Database.Profile

/-! MySQL. Version 8 brings shared and impatient locks, lateral joins and check constraints. -/

namespace PortableSql.Mysql

/-- The size limit of rows, which bounds `varchar` and `varbinary`. -/
def maxVarcharLength : Nat := 65535

def config (v : Version) : Config :=
  let modern := v.atLeast ⟨8, 0⟩
  { Config.standard with
    name := "mysql"
    capabilities := Capabilities.standard.enable
      [.ifExistsBeforeTableName, .canCreateCatalog, .createTableIfNotExists,
        .tupleDistinctCounts, .timestampArithmetic, .queryHints]
      |>.disable
        [.qualifyIndexName, .canCreateSchema, .columnCheck, .tableCheck,
          .subqueryOnMutatingTable, .fetchClause, .nullsOrdering, .nativeBoolean]
      |>.enable (if modern then [.lateral, .columnCheck, .tableCheck] else [])
    ddl :=
      { DdlWords.standard with
        tableType := " engine=InnoDB"
        dropForeignKey := " drop foreign key "
        dropUniqueKey := " drop index "
        createCatalog := "create database"
        dropCatalog := "drop database"
        dropIndexOnTable := true
        inlineComments := true }
    locking :=
      { LockClauses.standard with
        forShare := some (if modern then " for share" else " lock in share mode")
        nowait := if modern then some " nowait" else none
        skipLocked := if modern then some " skip locked" else none
        target := if modern then .table else .none }
    sequences := .absent
    identity :=
      { IdentitySupport.standard with
        columnClause := " not null auto_increment"
        selectLast := some "select last_insert_id()" }
    quote := .backticks
    trueLiteral := "true"
    falseLiteral := "false"
    momentLiterals := .ansi
    maxIdentifierLength := some 64
    noColumnsInsert := "() values ( )"
    currentTimestampSelect := "select now()" }

open TypeNameTable.Change in
def typeNames : List TypeNameTable.Change :=
  [ register .boolean "bit",
    register .double "double precision",
    register .timestamp "datetime($p)",
    register .timestampWithTimezone "timestamp($p)",
    register .timeWithTimezone "time",
    register .numeric "decimal($p,$s)",
    registerUpTo .varchar maxVarcharLength "varchar($l)",
    register .varchar "longtext",
    registerUpTo .nvarchar maxVarcharLength "varchar($l)",
    register .nvarchar "longtext",
    register .nchar "char($l)",
    registerUpTo .varbinary maxVarcharLength "varbinary($l)",
    register .varbinary "longblob",
    register .longVarchar "longtext",
    register .longNvarchar "longtext",
    register .longVarbinary "longblob",
    register .clob "longtext",
    register .nclob "longtext",
    register .blob "longblob" ]

open FunctionTable.Change in
def functions : List FunctionTable.Change :=
  [ joined "concat" "concat(" "," ")" 1,
    pattern "length" "char_length(?1)",
    pattern "str" "cast(?1 as char)",
    native "log10" 1 (some 1),
    native "ifnull" 2 (some 2) ]

def profile : Profile :=
  { config := config
    typeNames := fun _ => typeNames
    keywords := ["accessible", "auto_increment", "limit", "lock", "regexp", "rlike",
      "straight_join", "unsigned", "zerofill"]
    functions := functions }

end PortableSql.Mysql
