import PortableSql.Failure

/-! Lock modes, ordered by strength. Several modes share a strength; they differ in what
happens when a row is already locked. -/

namespace PortableSql

inductive LockMode
  /-- No lock at all. -/
  | none
  /-- No lock, but the version is checked against the database. -/
  | read
  /-- The version is checked when the transaction ends. -/
  | optimistic
  | optimisticForceIncrement
  | upgrade
  | upgradeNowait
  | upgradeSkipLocked
  /-- Held after an insert or an update. -/
  | write
  | pessimisticRead
  | pessimisticWrite
  | force
  /-- An exclusive lock taken by raising the version at once. -/
  | pessimisticForceIncrement
  deriving DecidableEq, Repr

namespace LockMode

/-- All modes, none before a weaker one. -/
def all : List LockMode :=
  [none, read, optimistic, optimisticForceIncrement, upgrade, upgradeNowait, upgradeSkipLocked,
    write, pessimisticRead, pessimisticWrite, force, pessimisticForceIncrement]

theorem mem_all (m : LockMode) : m ∈ all := by cases m <;> decide

def name : LockMode → String
  | none => "none"
  | read => "read"
  | optimistic => "optimistic"
  | optimisticForceIncrement => "optimistic_force_increment"
  | upgrade => "upgrade"
  | upgradeNowait => "upgrade_nowait"
  | upgradeSkipLocked => "upgrade_skiplocked"
  | write => "write"
  | pessimisticRead => "pessimistic_read"
  | pessimisticWrite => "pessimistic_write"
  | force => "force"
  | pessimisticForceIncrement => "pessimistic_force_increment"

/-- The spelling in stored documents: capitals, every word separated. -/
def storedName : LockMode → String
  | upgradeSkipLocked => "UPGRADE_SKIP_LOCKED"
  | mode => String.ofList (mode.name.toList.map Char.toUpper)

/-- The mode a text names, whatever its letter case and outer white space, with hyphens for
underscores if need be. The words of skip-locked may be separated or not. -/
def ofText? (text : String) : Option LockMode :=
  let wanted := (Text.strip text.toList).map fun c => if c = '-' then '_' else c.toLower
  if wanted = "upgrade_skip_locked".toList then some upgradeSkipLocked
  else all.find? (·.name.toList == wanted)

def parse (text : String) : Except Failure LockMode :=
  match ofText? text with
  | some mode => .ok mode
  | Option.none => .error (.unknownName .lockMode text)

/-- The strength of a mode. -/
def level : LockMode → Nat
  | none => 0
  | read => 5
  | optimistic => 6
  | optimisticForceIncrement => 7
  | upgrade | upgradeNowait | upgradeSkipLocked | write => 10
  | pessimisticRead => 12
  | pessimisticWrite => 13
  | force => 15
  | pessimisticForceIncrement => 17

/-- The stronger of two modes, the first of equally strong ones. -/
def stronger (a b : LockMode) : LockMode := if a.level < b.level then b else a

theorem level_stronger (a b : LockMode) : (a.stronger b).level = max a.level b.level := by
  unfold stronger
  split <;> omega

end LockMode

end PortableSql
