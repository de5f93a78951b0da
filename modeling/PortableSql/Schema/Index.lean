import PortableSql.Schema.ObjectName

/-! Indexes. -/

namespace PortableSql

structure Index where
  name : String
  table : ObjectName
  columns : List String
  unique : Bool := false
  deriving DecidableEq, Repr

namespace Index

/-- The name of the index, in the place of its table where the database wants that. -/
def renderName (d : Dialect) (i : Index) : String :=
  if d.can .qualifyIndexName then (i.table.sibling i.name).render d else d.renderIdentifier i.name

/-- The statement that creates the index. -/
def create (d : Dialect) (i : Index) : String :=
  "create " ++ (if i.unique then "unique " else "") ++ "index " ++ i.renderName d ++ " on " ++
    i.table.render d ++ " (" ++ d.renderIdentifiers i.columns ++ ")"

/-- What a statement that drops the index drops. -/
def dropped (d : Dialect) (i : Index) : String :=
  if d.config.ddl.dropIndexOnTable then d.renderIdentifier i.name ++ " on " ++ i.table.render d
  else i.renderName d

/-- The statement that drops the index. -/
def drop (d : Dialect) (i : Index) : Except Failure String := do
  d.checkTableDrop
  return "drop index " ++ (if d.can .ifExistsBeforeTableName then "if exists " else "") ++
    i.dropped d ++ (if d.can .ifExistsAfterTableName then " if exists" else "")

end Index

end PortableSql
