import PortableSql.Dialect.Basic

/-! Names of schema objects, qualified by a catalog and a schema if need be. -/

namespace PortableSql

structure ObjectName where
  catalog : Option String := none
  schema : Option String := none
  name : String
  deriving DecidableEq, Repr

namespace ObjectName

/-- The parts that are present, from the outside in. -/
def parts (n : ObjectName) : List String := n.catalog.toList ++ n.schema.toList ++ [n.name]

/-- The parts as they stand in a statement, with dots between them. -/
def render (d : Dialect) (n : ObjectName) : String :=
  ".".intercalate (n.parts.map d.renderIdentifier)

/-- Another object in the same place. -/
def sibling (n : ObjectName) (name : String) : ObjectName := { n with name }

end ObjectName

namespace Dialect

/-- Refuse to drop tables if `if exists` would have to stand on both sides of the name. -/
def checkTableDrop (d : Dialect) : Except Failure Unit :=
  if d.can .ifExistsBeforeTableName ∧ d.can .ifExistsAfterTableName then
    .error (.conflict (.ifExistsAroundTable d.name))
  else .ok ()

/-- A constraint to drop, with `if exists` on the side where the database wants it. -/
def droppedConstraint (d : Dialect) (name : String) : Except Failure String :=
  if d.can .ifExistsBeforeConstraintName ∧ d.can .ifExistsAfterConstraintName then
    .error (.conflict (.ifExistsAroundConstraint d.name))
  else
    .ok ((if d.can .ifExistsBeforeConstraintName then "if exists " else "") ++
      d.renderIdentifier name ++
      (if d.can .ifExistsAfterConstraintName then " if exists" else ""))

/-- The beginning of a statement that alters a table. -/
def alterTable (d : Dialect) (table : ObjectName) : String :=
  "alter table " ++ (if d.can .ifExistsAfterAlterTable then "if exists " else "") ++ table.render d

end Dialect

end PortableSql
