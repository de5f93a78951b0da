import PortableSql.Locking.Request

/-! The lock clauses of a database: what is appended to a query, or to a table name, to
lock rows. A database without a feature takes the plain clause instead; a database
without lock clauses takes none. Clauses carry their own leading space. -/

namespace PortableSql

/-- What a clause may name as the rows to lock. -/
inductive LockTarget
  | none | column | table
  deriving DecidableEq, Repr

def LockTarget.name : LockTarget → String
  | none => "none"
  | column => "column"
  | table => "table"

def LockTarget.ofName? (name : String) : Option LockTarget :=
  [none, column, table].find? (·.name == name)

structure LockClauses where
  forUpdate : String
  /-- The clause for a shared lock, if it differs. -/
  forShare : Option String
  nowait : Option String
  skipLocked : Option String
  /-- What stands before a waiting time in seconds. -/
  wait : Option String
  target : LockTarget
  /-- The table hint for exclusive locks. -/
  writeHint : Option String
  /-- The table hint for shared locks. -/
  readHint : Option String
  withOrderBy : Bool
  deriving DecidableEq, Repr

/-- Milliseconds in whole seconds, halves rounded up, within 32 bits. -/
def secondsOfMillis (millis : Int) : Int := min (millis + 500) 2147483647 / 1000

namespace LockClauses

/-- The plain clause alone. -/
def standard : LockClauses :=
  { forUpdate := " for update"
    forShare := none
    nowait := none
    skipLocked := none
    wait := none
    target := .none
    writeHint := none
    readHint := none
    withOrderBy := true }

/-- No lock clauses. -/
def absent : LockClauses := { standard with forUpdate := "", withOrderBy := false }

def supportsForUpdate (c : LockClauses) : Bool := c.forUpdate ≠ ""

def supportsTimeouts (c : LockClauses) : Bool := c.wait.isSome

def supportsNowait (c : LockClauses) : Bool := c.nowait.isSome

def supportsSkipLocked (c : LockClauses) : Bool := c.skipLocked.isSome

/-- A clause and what follows it, unless there is no clause. -/
def suffixed (clause : String) (suffix : Option String) : String :=
  if clause = "" then "" else clause ++ suffix.getD ""

/-- A clause with its waiting policy. -/
def timed (c : LockClauses) (clause : String) (timeout : LockTimeout) : String :=
  if clause = "" then ""
  else if timeout = LockTimeout.noWait then suffixed clause c.nowait
  else if timeout = LockTimeout.skipLocked then suffixed clause c.skipLocked
  else if 0 < timeout then
    match c.wait with
    | some wait => clause ++ wait ++ toString (secondsOfMillis timeout)
    | none => clause
  else clause

/-- The clause for a shared lock, which may be the exclusive one. -/
def shareClause (c : LockClauses) : String := c.forShare.getD c.forUpdate

def writeLock (c : LockClauses) (timeout : LockTimeout) : String := c.timed c.forUpdate timeout

def readLock (c : LockClauses) (timeout : LockTimeout) : String := c.timed c.shareClause timeout

def forUpdateNowait (c : LockClauses) : String := suffixed c.forUpdate c.nowait

def forUpdateSkipLocked (c : LockClauses) : String := suffixed c.forUpdate c.skipLocked

/-- What is appended to a query that locks in a mode. -/
def fragment (c : LockClauses) (mode : LockMode) (timeout : LockTimeout) : String :=
  match mode with
  | .upgrade => c.forUpdate
  | .pessimisticRead => c.readLock timeout
  | .pessimisticWrite => c.writeLock timeout
  | .upgradeNowait | .force | .pessimisticForceIncrement => c.forUpdateNowait
  | .upgradeSkipLocked => c.forUpdateSkipLocked
  | .none | .read | .optimistic | .optimisticForceIncrement | .write => ""

/-- What is appended for a request, by its strongest mode. -/
def fragmentFor (c : LockClauses) (request : LockRequest) : String :=
  c.fragment request.effectiveMode request.timeout

/-- Put `of` and the targets behind the first of the clauses that the fragment starts with. -/
def nameTargets (fragment targets : String) : List String → String
  | [] => fragment
  | clause :: more =>
    if clause ≠ "" ∧ clause.toList.isPrefixOf fragment.toList then
      clause ++ " of " ++ targets ++ String.ofList (fragment.toList.drop clause.length)
    else nameTargets fragment targets more

/-- What is appended for a request, naming what to lock where the database allows that. -/
def fragmentOf (c : LockClauses) (request : LockRequest) (targets : List String) : String :=
  let fragment := c.fragmentFor request
  if fragment = "" ∨ targets = [] ∨ c.target = .none then fragment
  else nameTargets fragment (", ".intercalate targets) [c.forShare.getD "", c.forUpdate]

/-- The table hint for a mode. -/
def hint? (c : LockClauses) (mode : LockMode) : Option String :=
  if mode = .pessimisticRead then c.readHint
  else if LockMode.read.level < mode.level then c.writeHint
  else none

/-- A table with its lock hint, if there is one. -/
def hinted (c : LockClauses) (mode : LockMode) (table : String) : String :=
  match c.hint? mode with
  | some hint => table ++ " " ++ hint
  | none => table

end LockClauses

end PortableSql
