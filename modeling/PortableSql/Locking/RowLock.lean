import PortableSql.Locking.Clauses

/-! Locking a single row. Most modes select the row under a lock clause or a table hint;
one raises the version of the row at once; two do nothing until the transaction ends. -/

namespace PortableSql

/-- A row by its table and the columns that identify it. -/
structure LockableRow where
  table : String
  idColumns : List String
  versionColumn : Option String
  deriving DecidableEq, Repr

/-- How a lock on a row is taken. -/
inductive RowLock
  | select (mode : LockMode)
  | sharedSelect
  | exclusiveSelect
  | raiseVersion
  | checkVersionLater
  | raiseVersionLater
  deriving DecidableEq, Repr

namespace RowLock

def ofMode : LockMode → RowLock
  | .pessimisticForceIncrement => raiseVersion
  | .pessimisticWrite => exclusiveSelect
  | .pessimisticRead => sharedSelect
  | .optimistic => checkVersionLater
  | .optimisticForceIncrement => raiseVersionLater
  | mode => select mode

/-- The name of a way to lock. -/
def name : RowLock → String
  | select mode => "select:" ++ mode.name
  | sharedSelect => "pessimistic_read_select"
  | exclusiveSelect => "pessimistic_write_select"
  | raiseVersion => "pessimistic_force_increment"
  | checkVersionLater => "optimistic"
  | raiseVersionLater => "optimistic_force_increment"

end RowLock

/-- The condition that columns equal bound values. -/
def boundColumns (columns : List String) : String :=
  " and ".intercalate (columns.map (· ++ " = ?"))

namespace LockClauses

/-- The query that reads the key of a row under a lock. -/
def selectRow (c : LockClauses) (row : LockableRow) (mode : LockMode) (timeout : LockTimeout) :
    String :=
  "select " ++ ", ".intercalate row.idColumns ++ " from " ++ c.hinted mode row.table ++
    " where " ++ boundColumns (row.idColumns ++ row.versionColumn.toList) ++
    c.fragment mode timeout

/-- The statement that takes a lock on a row, if there is one to issue now. -/
def rowLockSql (c : LockClauses) (row : LockableRow) (timeout : LockTimeout) :
    RowLock → Except Failure (Option String)
  | .checkVersionLater | .raiseVersionLater => .ok none
  | .select mode => .ok (c.selectRow row mode timeout)
  | .sharedSelect => .ok (c.selectRow row .pessimisticRead timeout)
  | .exclusiveSelect => .ok (c.selectRow row .pessimisticWrite timeout)
  | .raiseVersion =>
    match row.versionColumn with
    | none =>
      .error (.conflict
        (.missingVersionColumn LockMode.pessimisticForceIncrement.name row.table))
    | some version =>
      .ok (some ("update " ++ row.table ++ " set " ++ version ++ " = ? where " ++
        boundColumns row.idColumns ++ " and " ++ version ++ " = ?"))

end LockClauses

end PortableSql
