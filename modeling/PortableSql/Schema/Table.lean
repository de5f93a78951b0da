import PortableSql.Schema.Column
import PortableSql.Schema.UniqueKey

/-! Tables: their creation, with everything that belongs to them, and their removal. -/

namespace PortableSql

structure Table where
  name : ObjectName
  columns : List Column := []
  primaryKey : List String := []
  uniqueKeys : List UniqueKey := []
  checks : List String := []
  comment : Option String := none

namespace Table

/-- Is the column part of the primary key? -/
def isKeyColumn (t : Table) (c : Column) : Bool := decide (c.name ∈ t.primaryKey)

/-- The definitions of the columns, or the first reason why one cannot be written. -/
def definitions (d : Dialect) (t : Table) : Except Failure (List String) :=
  t.columns.mapM fun c => c.definition d (t.isKeyColumn c)

/-- Does the column need a key of its own, as its definition cannot make it unique? -/
def needsKey (d : Dialect) (t : Table) (c : Column) : Bool :=
  c.unique && !t.isKeyColumn c && (d.uniqueKeys.columnClause? c).isNone

/-- The key over a single column. -/
def columnKey (t : Table) (c : Column) : UniqueKey :=
  { name := "uk_" ++ t.name.name ++ "_" ++ c.name, table := t.name, columns := [c.name] }

/-- The declared keys, then those of single columns. -/
def allUniqueKeys (d : Dialect) (t : Table) : List UniqueKey :=
  t.uniqueKeys ++ (t.columns.filter (t.needsKey d)).map t.columnKey

def primaryKeyClause (d : Dialect) (t : Table) : List String :=
  if t.primaryKey = [] then [] else ["primary key (" ++ d.renderIdentifiers t.primaryKey ++ ")"]

def uniqueKeyClauses (d : Dialect) (t : Table) : List String :=
  if d.uniqueKeys.addsInline then (t.allUniqueKeys d).map (·.clause d) else []

def checkClauses (d : Dialect) (t : Table) : List String :=
  if d.can .tableCheck then t.checks.map fun condition => "check (" ++ condition ++ ")" else []

/-- What follows the columns within the parentheses. -/
def clauses (d : Dialect) (t : Table) : List String :=
  t.primaryKeyClause d ++ t.uniqueKeyClauses d ++ t.checkClauses d

/-- Everything within the parentheses. -/
def body (d : Dialect) (t : Table) (definitions : List String) : String :=
  ", ".intercalate definitions ++ String.join ((t.clauses d).map (", " ++ ·))

def inlineComment (d : Dialect) (t : Table) : String :=
  match t.comment with
  | some comment =>
    if d.config.ddl.inlineComments then " comment=" ++ Literal.string comment else ""
  | none => ""

/-- The statements that comment on the table and its columns, where comments are statements. -/
def commentStatements (d : Dialect) (t : Table) : List String :=
  if d.can .commentOn ∧ ¬ d.config.ddl.inlineComments then
    (t.comment.toList.map fun comment =>
      "comment on table " ++ t.name.render d ++ " is " ++ Literal.string comment) ++
    t.columns.flatMap fun c => c.comment.toList.map fun comment =>
      "comment on column " ++ t.name.render d ++ "." ++ d.renderIdentifier c.name ++ " is " ++
        Literal.string comment
  else []

/-- The statements that add unique keys, where the definition does not hold them. -/
def uniqueKeyStatements (d : Dialect) (t : Table) : Except Failure (List String) :=
  if d.uniqueKeys.addsInline then .ok [] else (t.allUniqueKeys d).mapM (·.create d)

/-- The statements that create the table and all that belongs to it. -/
def create (d : Dialect) (t : Table) : Except Failure (List String) := do
  let definitions ← t.definitions d
  let keys ← t.uniqueKeyStatements d
  return (d.config.ddl.createTable ++ " " ++ t.name.render d ++ " (" ++ t.body d definitions ++
    ")" ++ t.inlineComment d ++ d.config.ddl.tableType) :: t.commentStatements d ++ keys

/-- What writing columns reports, up to the first that cannot be written. -/
def columnEvents (d : Dialect) (t : Table) : List Column → List Event
  | [] => []
  | c :: rest =>
    c.bodyEvents d ++
      match c.definition d (t.isKeyColumn c) with
      | .ok _ => t.columnEvents d rest
      | .error _ => []

/-- What creating the table reports. -/
def createEvents (d : Dialect) (t : Table) : List Event := t.columnEvents d t.columns

end Table

/-- The statement that drops a table. -/
def ObjectName.dropTable (d : Dialect) (table : ObjectName) : Except Failure String := do
  d.checkTableDrop
  return "drop table " ++ (if d.can .ifExistsBeforeTableName then "if exists " else "") ++
    table.render d ++ d.config.ddl.cascadeConstraints ++
    (if d.can .ifExistsAfterTableName then " if exists" else "")

end PortableSql
