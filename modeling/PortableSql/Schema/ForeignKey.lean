import PortableSql.Schema.ObjectName

/-! Foreign keys. -/

namespace PortableSql

structure ForeignKey where
  name : String
  table : ObjectName
  columns : List String
  target : ObjectName
  /-- None if the key refers to the primary key of its target. -/
  targetColumns : List String := []
  cascadeDelete : Bool := false
  deriving DecidableEq, Repr

namespace ForeignKey

/-- The statement that adds the key to its table. -/
def create (d : Dialect) (k : ForeignKey) : Except Failure String := do
  d.demand (d.can .hasAlterTable && d.can .alterTableForeignKeys) .alterTableForeignKeys
  return d.alterTable k.table ++ " add constraint " ++ d.renderIdentifier k.name ++
    " foreign key (" ++ d.renderIdentifiers k.columns ++ ") references " ++ k.target.render d ++
    (if k.targetColumns = [] then "" else " (" ++ d.renderIdentifiers k.targetColumns ++ ")") ++
    (if k.cascadeDelete ∧ d.can .cascadeDelete then " on delete cascade" else "")

/-- The statement that drops the key, unless constraints go with their tables. -/
def drop (d : Dialect) (k : ForeignKey) : Except Failure (Option String) :=
  if d.can .dropConstraints ∧ d.can .hasAlterTable then do
    let target ← d.droppedConstraint k.name
    return some (d.alterTable k.table ++ d.config.ddl.dropForeignKey ++ target)
  else .ok none

end ForeignKey

end PortableSql
