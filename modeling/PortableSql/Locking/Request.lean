import Std.Data.TreeMap
import PortableSql.Event
import PortableSql.Locking.Mode

/-! Lock requests. A statement asks for one mode as a whole and may ask for others on
single aliases; the strongest of all decides. Aliases are considered in the order of
their characters, and a mode gives way only to a strictly stronger one. -/

namespace PortableSql

/-- How long to wait for a locked row: milliseconds if positive, or one of three policies. -/
abbrev LockTimeout := Int

namespace LockTimeout

/-- Wait as long as the database allows. -/
def forever : LockTimeout := -1

/-- Fail at once. -/
def noWait : LockTimeout := 0

/-- Leave locked rows out. -/
def skipLocked : LockTimeout := -2

end LockTimeout

structure LockRequest where
  mode : LockMode := .none
  timeout : LockTimeout := LockTimeout.forever
  aliases : Std.TreeMap String LockMode := {}

namespace LockRequest

/-- Ask for a mode on one alias, in place of an earlier request for it. -/
def withAlias (r : LockRequest) (name : String) (mode : LockMode) : LockRequest :=
  { r with aliases := r.aliases.insert name mode }

/-- The strongest mode asked for. -/
def effectiveMode (r : LockRequest) : LockMode :=
  r.aliases.toList.foldl (fun mode entry => mode.stronger entry.2) r.mode

/-- The aliases that raise the mode, when they are added to `mode` one by one. -/
def escalations (mode : LockMode) : List (String × LockMode) → List Event
  | [] => []
  | (name, requested) :: rest =>
    let next := mode.stronger requested
    (if next = mode then []
      else [⟨.trace, "Lock mode escalated",
        [.text "alias" name, .plain "from" mode.name, .plain "to" next.name]⟩])
      ++ escalations next rest

def events (r : LockRequest) : List Event := escalations r.mode r.aliases.toList

end LockRequest

end PortableSql
