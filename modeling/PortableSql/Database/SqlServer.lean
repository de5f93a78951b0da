import PortableSql.Database.Profile

/-! Microsoft SQL Server. Rows are locked by hints on tables, and unique keys over nullable
columns are filtered indexes. Version 11 brings sequences, version 13 `if exists`. -/

namespace PortableSql.SqlServer

def maxVarcharLength : Nat := 8000

def maxNvarcharLength : Nat := 4000

def config (v : Version) : Config :=
  let sequences := v.atLeast ⟨11, 0⟩
  { Config.standard with
    name := "sqlserver"
    capabilities := Capabilities.standard.enable
      [.canCreateCatalog, .timestampArithmetic, .queryHints]
      |>.disable
        [.rowValueConstructorSyntax, .rowValueConstructorSyntaxInInList, .fetchClause,
          .nullsOrdering, .nativeBoolean]
      |>.enable (if sequences then [.fetchClause] else [])
      |>.enable
        (if v.atLeast ⟨13, 0⟩ then [.ifExistsBeforeTableName, .ifExistsBeforeConstraintName]
          else [])
    ddl :=
      { DdlWords.standard with
        addColumn := "add"
        createCatalog := "create database"
        dropCatalog := "drop database"
        dropIndexOnTable := true }
    locking :=
      { LockClauses.absent with
        writeHint := some "with (updlock, holdlock, rowlock)"
        readHint := some "with (holdlock, rowlock)" }
    sequences :=
      if sequences then { SequenceSupport.standard with selectNextValue := "select $v" }
      else .absent
    identity :=
      { IdentitySupport.standard with
        columnClause := " identity not null"
        selectLast := some "select @@identity" }
    quote := .brackets
    inListCeiling := 2100
    maxIdentifierLength := some 128
    noColumnsInsert := "default values"
    trim := .functions
    extractPattern := "datepart(?1,?2)"
    currentTimestampSelect := "select current_timestamp" }

open TypeNameTable.Change in
def typeNames : List TypeNameTable.Change :=
  [ register .boolean "bit",
    register .double "float",
    register .timestamp "datetime2($p)",
    register .timestampWithTimezone "datetimeoffset($p)",
    register .timeWithTimezone "datetimeoffset($p)",
    registerUpTo .varchar maxVarcharLength "varchar($l)",
    register .varchar "varchar(max)",
    register .longVarchar "varchar(max)",
    register .clob "varchar(max)",
    registerUpTo .nvarchar maxNvarcharLength "nvarchar($l)",
    register .nvarchar "nvarchar(max)",
    register .longNvarchar "nvarchar(max)",
    register .nclob "nvarchar(max)",
    registerUpTo .varbinary maxVarcharLength "varbinary($l)",
    register .varbinary "varbinary(max)",
    register .longVarbinary "varbinary(max)",
    register .blob "varbinary(max)" ]

open FunctionTable.Change in
def functions : List FunctionTable.Change :=
  [ joined "concat" "(" "+" ")" 1,
    pattern "length" "len(?1)",
    pattern "position" "charindex(?1,?2)",
    pattern "locate" "charindex(?1,?2)",
    pattern "ifnull" "isnull(?1,?2)",
    native "log10" 1 (some 1),
    native "str" 1 (some 3),
    pattern "timestampadd" "dateadd(?1,?2,?3)",
    pattern "timestampdiff" "datediff(?1,?2,?3)",
    bare "current_date" "convert(date,getdate())",
    bare "current_time" "convert(time,getdate())",
    bare "local_date" "convert(date,getdate())",
    bare "local_time" "convert(time,getdate())",
    bare "local_datetime" "getdate()",
    bare "offset_datetime" "sysdatetimeoffset()",
    bare "instant" "sysutcdatetime()" ]

def profile : Profile :=
  { config := config
    typeNames := fun _ => typeNames
    keywords := ["dbcc", "holdlock", "identity", "nocheck", "openquery", "pivot", "readtext",
      "rowcount", "textsize", "top", "tran", "tsequal", "unpivot", "updatetext", "writetext"]
    functions := functions
    uniqueKeys := .skipNullable }

end PortableSql.SqlServer
