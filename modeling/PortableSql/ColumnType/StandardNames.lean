import PortableSql.ColumnType.NameTable

/-! The type names that most databases share, for columns and for the values that queries
return. -/

namespace PortableSql.TypeNameTable

open Change

/-- Column types close to the standard. The long types borrow the names of their short forms. -/
def standardColumnChanges : List Change :=
  [ register .boolean "boolean",
    register .bit "bit",
    register .tinyint "tinyint",
    register .smallint "smallint",
    register .integer "integer",
    register .bigint "bigint",
    register .real "real",
    register .float "float($p)",
    register .double "double precision",
    register .numeric "numeric($p,$s)",
    register .decimal "decimal($p,$s)",
    register .date "date",
    register .time "time",
    register .timeWithTimezone "time with time zone",
    register .timestamp "timestamp($p)",
    register .timestampWithTimezone "timestamp($p) with time zone",
    register .binary "binary($l)",
    register .varbinary "varbinary($l)",
    register .blob "blob",
    register .char "char($l)",
    register .varchar "varchar($l)",
    register .clob "clob",
    register .nchar "nchar($l)",
    register .nvarchar "nvarchar($l)",
    register .nclob "nclob" ]

def standardColumns : TypeNameTable := empty.run standardColumnChanges

/-- The host language types of query results whose type is not declared. -/
def standardResultChanges : List Change :=
  [ register .bit "boolean",
    registerUpTo .bit 1 "boolean",
    registerUpTo .bit 8 "byte",
    registerUpTo .bit 16 "short",
    registerUpTo .bit 32 "integer",
    registerUpTo .bit 64 "long",
    register .boolean "boolean",
    register .tinyint "byte",
    register .smallint "short",
    register .integer "integer",
    register .bigint "long",
    register .real "float",
    register .float "double",
    register .double "double",
    register .numeric "big_decimal",
    register .decimal "big_decimal",
    register .date "date",
    register .time "time",
    register .timeWithTimezone "offset_time",
    register .timestamp "timestamp",
    register .timestampWithTimezone "offset_datetime",
    register .binary "binary",
    register .varbinary "binary",
    register .longVarbinary "binary",
    register .blob "blob",
    registerUpTo .char 1 "character",
    register .char "string",
    registerUpTo .varchar 1 "character",
    register .varchar "string",
    register .longVarchar "text",
    register .clob "clob",
    registerUpTo .nchar 1 "character",
    register .nchar "string",
    registerUpTo .nvarchar 1 "character",
    register .nvarchar "string",
    register .longNvarchar "ntext",
    register .nclob "nclob" ]

def standardResults : TypeNameTable := empty.run standardResultChanges

end PortableSql.TypeNameTable
