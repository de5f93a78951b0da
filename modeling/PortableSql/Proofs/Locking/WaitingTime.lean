import Std.Data.String.ToInt
import PortableSql.Backend

/-! How long a lock clause waits. A waiting time is asked for in milliseconds and written in
seconds, as the nearest whole number unless the largest times leave no room for rounding up. A
time that is not shorter is never written as fewer seconds, and one of at least half a second
is written as one second or more. A shorter one is written as none, though to wait for no time
at all is a policy of its own. -/

namespace PortableSql

/-- The longest waiting time that can be asked for. -/
def longestWait : Int := 2147483647

section Seconds

variable {t u : Int}

theorem secondsOfMillis_mono (h : t ≤ u) : secondsOfMillis t ≤ secondsOfMillis u := by
  have hsum : min (t + 500) 2147483647 ≤ min (u + 500) 2147483647 := by omega
  exact Int.ediv_le_ediv (by decide) hsum

/-- With room for rounding up, no other number of seconds is nearer. -/
theorem secondsOfMillis_nearest (h : t + 500 ≤ longestWait) :
    t - 500 < 1000 * secondsOfMillis t ∧ 1000 * secondsOfMillis t ≤ t + 500 := by
  have hsum : min (t + 500) 2147483647 = t + 500 := Int.min_eq_left h
  rw [secondsOfMillis, hsum]
  omega

theorem secondsOfMillis_near (h : t ≤ longestWait) :
    (1000 * secondsOfMillis t - t).natAbs < 1000 := by
  by_cases hroom : t + 500 ≤ longestWait
  · have hnearest := secondsOfMillis_nearest hroom
    omega
  · have hlongest : longestWait = 2147483647 := rfl
    have hsum : min (t + 500) 2147483647 = 2147483647 := Int.min_eq_right (by omega)
    rw [secondsOfMillis, hsum]
    omega

theorem one_le_secondsOfMillis_iff : 1 ≤ secondsOfMillis t ↔ 500 ≤ t := by
  rw [secondsOfMillis]
  omega

theorem secondsOfMillis_nonneg (h : 0 ≤ t) : 0 ≤ secondsOfMillis t := by
  rw [secondsOfMillis]
  omega

end Seconds

namespace LockClauses

variable {c : LockClauses} {clause wait : String} {timeout : LockTimeout}

theorem timed_of_pos (hclause : clause ≠ "") (hwait : c.wait = some wait) (hpos : 0 < timeout) :
    c.timed clause timeout = clause ++ wait ++ toString (secondsOfMillis timeout) := by
  have hnoWait : timeout ≠ LockTimeout.noWait := Int.ne_of_gt hpos
  have hskip : timeout ≠ LockTimeout.skipLocked := Int.ne_of_gt (Int.lt_trans (by decide) hpos)
  rw [timed, if_neg hclause, if_neg hnoWait, if_neg hskip, if_pos hpos, hwait]

end LockClauses

/-- A clause that waits says for how many seconds. They differ from the time that was asked for
by less than a second, they grow with it, and there is at least one of them exactly if the time
is half a second or more. -/
theorem locks_wait_rounded_seconds (c : LockClauses) {wait : String} (hwait : c.wait = some wait)
    {t : LockTimeout} (hpos : 1 ≤ t) (hmax : t ≤ longestWait) :
    let s := secondsOfMillis t
    (c.forUpdate ≠ "" → c.writeLock t = c.forUpdate ++ wait ++ toString s) ∧
      (c.shareClause ≠ "" → c.readLock t = c.shareClause ++ wait ++ toString s) ∧
      0 ≤ s ∧ (1000 * s - t).natAbs < 1000 ∧ (1 ≤ s ↔ 500 ≤ t) ∧
      ∀ u, t ≤ u → s ≤ secondsOfMillis u :=
  ⟨fun hclause => LockClauses.timed_of_pos hclause hwait hpos,
    fun hclause => LockClauses.timed_of_pos hclause hwait hpos,
    secondsOfMillis_nonneg (Int.le_of_lt hpos), secondsOfMillis_near hmax,
    one_le_secondsOfMillis_iff, fun _ => secondsOfMillis_mono⟩

/-- On Oracle a wait of two and a half seconds is written as three. -/
theorem waits_three_seconds :
    let c := (Backend.oracle.dialect { version := ⟨19, 0⟩ }).config.locking
    c.wait = some " wait " ∧ 1 ≤ (2500 : LockTimeout) ∧ (2500 : LockTimeout) ≤ longestWait ∧
      c.forUpdate ≠ "" ∧ c.writeLock 2500 = " for update wait 3" := by
  intro c
  have hwait : c.wait = some " wait " := rfl
  have hpos : 1 ≤ (2500 : LockTimeout) := by decide
  have hmax : (2500 : LockTimeout) ≤ longestWait := by decide
  have hclause : c.forUpdate ≠ "" := by decide
  have hlock := (locks_wait_rounded_seconds c hwait hpos hmax).1 hclause
  exact ⟨hwait, hpos, hmax, hclause, hlock⟩

/-- A wait of one millisecond is written as no second, and as no other number of seconds. -/
theorem short_wait_is_none :
    let c := (Backend.oracle.dialect { version := ⟨19, 0⟩ }).config.locking
    c.wait = some " wait " ∧ c.forUpdate ≠ "" ∧ c.writeLock 1 = " for update wait 0" ∧
      ∀ s : Int, c.writeLock 1 = c.forUpdate ++ " wait " ++ toString s → ¬ 1 ≤ s := by
  intro c
  have hlock : c.writeLock 1 = c.forUpdate ++ " wait " ++ toString (0 : Int) := by decide +kernel
  refine ⟨rfl, by decide, by decide +kernel, fun s hs => ?_⟩
  have htext : toString (0 : Int) = toString s :=
    (String.append_right_inj _).1 (hlock.symm.trans hs)
  have hzero : (0 : Int) = s := Int.repr_inj.1 htext
  omega

end PortableSql
