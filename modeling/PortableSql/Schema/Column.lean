import PortableSql.Dialect.Phrase
import PortableSql.Dialect.TypeNaming
import PortableSql.Number.Binary64
import PortableSql.Schema.ObjectName

/-! Columns and their definitions. -/

namespace PortableSql

inductive DefaultValue
  | null
  | boolean (b : Bool)
  | integer (n : Int)
  | float (x : Number.Binary64)
  | string (s : String)
  /-- Taken as it is. -/
  | expression (sql : String)

def DefaultValue.render (d : Dialect) : DefaultValue → String
  | null => "null"
  | boolean b => d.booleanLiteral b
  | integer n => toString n
  | float x => x.render
  | string s => Literal.string s
  | expression sql => sql

structure Column where
  name : String
  code : TypeCode
  language : LanguageType
  size : Size := {}
  /-- A type to write as it is, whatever the code. -/
  sqlType : Option String := none
  nullable : Bool := true
  unique : Bool := false
  /-- The database generates the values. -/
  identity : Bool := false
  default : Option DefaultValue := none
  check : Option String := none
  comment : Option String := none

/-- What makes a single column unique within its definition, if the style can do that. -/
def UniqueKeyStyle.columnClause? : UniqueKeyStyle → Column → Option String
  | .alterTable, _ | .createTable, _ => some " unique"
  | .skipNullable, column => if column.nullable then none else some " unique"

namespace Column

/-- The size of a column in a dialect. -/
def sizeIn (d : Dialect) (c : Column) : Size := d.sizeFor c.code c.language c.size

def typeName (d : Dialect) (c : Column) : Except Failure String :=
  match c.sqlType with
  | some sqlType => .ok sqlType
  | none => d.ddlTypeName c.code (c.sizeIn d)

/-- What finding the type of a column reports. -/
def typeEvents (d : Dialect) (c : Column) : List Event :=
  match c.sqlType with
  | some _ => []
  | none => d.borrowingEvents c.code (c.sizeIn d)

/-- The default and the nullability of an ordinary column. -/
def valueClauses (d : Dialect) (c : Column) (inPrimaryKey : Bool) : String :=
  (match c.default with
    | some value => " default " ++ value.render d
    | none => "") ++
  (if c.nullable ∧ ¬ inPrimaryKey then d.config.ddl.nullColumn else " not null")

/-- Everything between the name and the constraints of a column. -/
def body (d : Dialect) (c : Column) (inPrimaryKey : Bool) : Except Failure String :=
  if c.identity then do
    d.demand d.config.identity.supported .identityColumns
    if d.config.identity.hasDataType then
      let typeName ← c.typeName d
      return " " ++ typeName ++ d.config.identity.columnClause
    else return d.config.identity.columnClause
  else do
    let typeName ← c.typeName d
    return " " ++ typeName ++ c.valueClauses d inPrimaryKey

/-- What writing the body of a column reports. -/
def bodyEvents (d : Dialect) (c : Column) : List Event :=
  if c.identity ∧ ¬ (d.config.identity.supported ∧ d.config.identity.hasDataType) then []
  else c.typeEvents d

/-- The unique clause of a column, which a column of the primary key does not need. -/
def uniqueClause (d : Dialect) (c : Column) (inPrimaryKey : Bool) : String :=
  if c.unique ∧ ¬ inPrimaryKey then (d.uniqueKeys.columnClause? c).getD "" else ""

def checkClause (d : Dialect) (c : Column) : String :=
  match c.check with
  | some condition => if d.can .columnCheck then " check (" ++ condition ++ ")" else ""
  | none => ""

def commentClause (d : Dialect) (c : Column) : String :=
  match c.comment with
  | some comment =>
    if d.config.ddl.inlineComments then " comment " ++ Literal.string comment else ""
  | none => ""

/-- The definition of a column in a new table or in an addition to one. -/
def definition (d : Dialect) (c : Column) (inPrimaryKey : Bool) : Except Failure String := do
  let body ← c.body d inPrimaryKey
  return d.renderIdentifier c.name ++ body ++ c.uniqueClause d inPrimaryKey ++
    c.checkClause d ++ c.commentClause d

/-- The statement that adds a column to a table. -/
def addTo (d : Dialect) (table : ObjectName) (c : Column) : Except Failure String := do
  d.demand (d.can .hasAlterTable) .alterTable
  let definition ← c.definition d false
  return d.alterTable table ++ " " ++ d.config.ddl.addColumn ++ " " ++ definition ++
    d.config.ddl.addColumnSuffix

/-- What adding a column reports. -/
def addEvents (d : Dialect) (c : Column) : List Event :=
  if d.can .hasAlterTable then c.bodyEvents d else []

end Column

end PortableSql
