import PortableSql.Schema.ObjectName

/-! Unique keys over several columns, declared in the style of the dialect. -/

namespace PortableSql

structure UniqueKey where
  name : String
  table : ObjectName
  columns : List String
  deriving DecidableEq, Repr

/-- Are unique keys part of the definition of their table? -/
def UniqueKeyStyle.addsInline : UniqueKeyStyle → Bool
  | .createTable => true
  | .alterTable | .skipNullable => false

namespace UniqueKey

/-- The clause within the definition of a table. -/
def clause (d : Dialect) (k : UniqueKey) : String :=
  "constraint " ++ d.renderIdentifier k.name ++ " unique (" ++ d.renderIdentifiers k.columns ++ ")"

/-- The clause with the comma that separates it from what stands before. -/
def tableFragment (d : Dialect) (k : UniqueKey) : String := ", " ++ k.clause d

/-- The statement that adds the key to a table. -/
def create (d : Dialect) (k : UniqueKey) : Except Failure String :=
  match d.uniqueKeys with
  | .alterTable | .createTable => do
    d.demand (d.can .hasAlterTable) .alterTableUniqueKeys
    return d.alterTable k.table ++ " add constraint " ++ d.renderIdentifier k.name ++
      " unique (" ++ d.renderIdentifiers k.columns ++ ")"
  | .skipNullable =>
    .ok ("create unique index " ++ d.renderIdentifier k.name ++ " on " ++ k.table.render d ++
      " (" ++ d.renderIdentifiers k.columns ++ ") where " ++
      " and ".intercalate (k.columns.map fun c => d.renderIdentifier c ++ " is not null"))

/-- The statement that drops the key. -/
def drop (d : Dialect) (k : UniqueKey) : Except Failure String :=
  match d.uniqueKeys with
  | .alterTable | .createTable => do
    d.demand (d.can .hasAlterTable) .alterTableUniqueKeys
    let target ← d.droppedConstraint k.name
    return d.alterTable k.table ++ d.config.ddl.dropUniqueKey ++ target
  | .skipNullable =>
    .ok ("drop index " ++ d.renderIdentifier k.name ++ " on " ++ k.table.render d)

end UniqueKey

end PortableSql
