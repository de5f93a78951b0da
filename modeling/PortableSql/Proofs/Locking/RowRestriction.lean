import Mathlib.Tactic.SplitIfs
import PortableSql.Backend
import PortableSql.Locking.RowLock
import PortableSql.Proofs.Number.Digits
import PortableSql.Proofs.Text.Joined

/-! The condition on the row that a lock is for. A query that locks a row and the update that raises
its version restrict the same columns in the same order, the key and then the version, so values
that are bound by position go to the same columns in both. The update has one bind marker more, for
the new version, and it is refused where there is no version. -/

namespace PortableSql

/-- The condition equates each column with a bound value, in their order. -/
inductive Restricts : List String → String → Prop
  | last (column : String) : Restricts [column] (column ++ " = ?")
  | more {columns : List String} {condition : String} (column : String)
      (h : Restricts columns condition) :
      Restricts (column :: columns) (column ++ " = ? and " ++ condition)

section Condition

variable {columns : List String}

theorem restricts_boundColumns (h : columns ≠ []) : Restricts columns (boundColumns columns) := by
  induction columns with
  | nil => exact absurd rfl h
  | cons column columns ih =>
    cases columns with
    | nil => simpa [boundColumns] using Restricts.last column
    | cons next columns =>
      have htext : boundColumns (column :: next :: columns) =
          column ++ " = ? and " ++ boundColumns (next :: columns) := by
        simp [boundColumns, String.intercalate_cons_cons, ← String.toList_inj]
      rw [htext]
      exact .more column (ih (by simp))

/-- A further column goes behind the condition on the others. -/
theorem boundColumns_append (h : columns ≠ []) (column : String) :
    boundColumns (columns ++ [column]) =
      boundColumns columns ++ " and " ++ column ++ " = ?" := by
  have hne : columns.map (· ++ " = ?") ≠ [] := by simpa using h
  rw [boundColumns, List.map_append, ← Text.intercalate_append hne, boundColumns]
  simp [← String.toList_inj]

/-- Each column brings one marker. -/
theorem count_boundColumns (h : ∀ column ∈ columns, '?' ∉ column.toList) :
    (boundColumns columns).toList.count '?' = columns.length := by
  have hone : columns.map (fun column => (column ++ " = ?").toList.count '?') =
      columns.map fun _ => 1 := by
    refine List.map_congr_left fun column hcolumn => ?_
    rw [String.toList_append, List.count_append, List.count_eq_zero.2 (h column hcolumn)]
    rfl
  rw [boundColumns, Text.count_intercalate (by decide), List.map_map]
  change (columns.map fun column => (column ++ " = ?").toList.count '?').sum = _
  rw [hone, List.map_const', List.sum_replicate_nat, Nat.mul_one]

end Condition

namespace RowLock

/-- The mode of the query that locks the row, if a query does. -/
def selectMode? : RowLock → Option LockMode
  | select mode => some mode
  | sharedSelect => some .pessimisticRead
  | exclusiveSelect => some .pessimisticWrite
  | raiseVersion | checkVersionLater | raiseVersionLater => none

theorem selectMode?_ofMode (mode : LockMode) :
    (ofMode mode).selectMode? =
      if mode ∈ [.optimistic, .optimisticForceIncrement, .pessimisticForceIncrement] then none
      else some mode := by
  cases mode <;> decide

end RowLock

/-- Neither the table nor a column has a bind marker in its name. -/
structure LockableRow.MarkerFree (row : LockableRow) : Prop where
  table : '?' ∉ row.table.toList
  columns : ∀ column ∈ row.idColumns ++ row.versionColumn.toList, '?' ∉ column.toList

namespace LockClauses

variable {c : LockClauses} {row : LockableRow} {timeout : LockTimeout} {mode : LockMode}
  {lock : RowLock} {clause : String}

/-- Every query that locks the row has this condition, and then the fragment of its mode. -/
def SelectsBy (c : LockClauses) (row : LockableRow) (timeout : LockTimeout)
    (condition : String) : Prop :=
  ∀ lock mode, RowLock.selectMode? lock = some mode →
    c.rowLockSql row timeout lock =
      .ok (some ("select " ++ ", ".intercalate row.idColumns ++ " from " ++
        c.hinted mode row.table ++ " where " ++ condition ++ c.fragment mode timeout))

theorem rowLockSql_of_selectMode? (h : lock.selectMode? = some mode) :
    c.rowLockSql row timeout lock = .ok (some (c.selectRow row mode timeout)) := by
  cases lock with
  | select _ | sharedSelect | exclusiveSelect =>
    obtain rfl := Option.some.inj h
    rfl
  | raiseVersion | checkVersionLater | raiseVersionLater => cases h

theorem selectsBy_boundColumns (c : LockClauses) (row : LockableRow) (timeout : LockTimeout) :
    c.SelectsBy row timeout (boundColumns (row.idColumns ++ row.versionColumn.toList)) :=
  fun _ _ h => rowLockSql_of_selectMode? h

/-- Neither a clause nor a hint has a bind marker. -/
structure MarkerFree (c : LockClauses) : Prop where
  forUpdate : '?' ∉ c.forUpdate.toList
  optional : ∀ clause ∈ [c.forShare, c.nowait, c.skipLocked, c.wait, c.writeHint, c.readHint],
    ∀ text ∈ clause, '?' ∉ text.toList

theorem marker_notMem_suffixed {suffix : Option String} (hclause : '?' ∉ clause.toList)
    (hsuffix : ∀ text ∈ suffix, '?' ∉ text.toList) : '?' ∉ (suffixed clause suffix).toList := by
  rw [suffixed]
  split_ifs
  · simp
  · cases suffix with
    | none => simpa using hclause
    | some text =>
      have htext := hsuffix text rfl
      simp [hclause, htext]

namespace MarkerFree

theorem timed (h : c.MarkerFree) (hclause : '?' ∉ clause.toList) (timeout : LockTimeout) :
    '?' ∉ (c.timed clause timeout).toList := by
  rw [LockClauses.timed]
  split_ifs
  · simp
  · exact marker_notMem_suffixed hclause (h.optional _ (by simp))
  · exact marker_notMem_suffixed hclause (h.optional _ (by simp))
  · split
    · rename_i wait hwait
      have htext := h.optional c.wait (by simp) wait hwait
      have hseconds : '?' ∉ (toString (secondsOfMillis timeout)).toList := fun hmem =>
        absurd (Number.mem_toString_int hmem) (by decide)
      rw [String.toList_append, String.toList_append, List.mem_append, List.mem_append, not_or,
        not_or]
      exact ⟨⟨hclause, htext⟩, hseconds⟩
    · exact hclause
  · exact hclause

theorem shareClause (h : c.MarkerFree) : '?' ∉ c.shareClause.toList := by
  rw [LockClauses.shareClause]
  cases hshare : c.forShare with
  | none => exact h.forUpdate
  | some share => exact h.optional c.forShare (by simp) share hshare

theorem fragment (h : c.MarkerFree) (mode : LockMode) (timeout : LockTimeout) :
    '?' ∉ (c.fragment mode timeout).toList := by
  cases mode with
  | none | read | optimistic | optimisticForceIncrement | write => exact List.not_mem_nil
  | upgrade => exact h.forUpdate
  | upgradeNowait | force | pessimisticForceIncrement | upgradeSkipLocked =>
    exact marker_notMem_suffixed h.forUpdate (h.optional _ (by simp))
  | pessimisticRead => exact h.timed h.shareClause timeout
  | pessimisticWrite => exact h.timed h.forUpdate timeout

theorem hinted (h : c.MarkerFree) {table : String} (htable : '?' ∉ table.toList)
    (mode : LockMode) : '?' ∉ (c.hinted mode table).toList := by
  rw [LockClauses.hinted]
  split
  · rename_i hint hhint
    have htext : '?' ∉ hint.toList := by
      rw [hint?] at hhint
      split_ifs at hhint
      · exact h.optional c.readHint (by simp) hint hhint
      · exact h.optional c.writeHint (by simp) hint hhint
    simp [htable, htext]
  · exact htable

/-- Only the condition of the query has markers. -/
theorem count_selectRow (h : c.MarkerFree) (hrow : row.MarkerFree) (mode : LockMode)
    (timeout : LockTimeout) :
    (c.selectRow row mode timeout).toList.count '?' =
      (row.idColumns ++ row.versionColumn.toList).length := by
  have hids : '?' ∉ (", ".intercalate row.idColumns).toList :=
    (Text.notMem_intercalate_iff (by decide)).2 fun column hcolumn =>
      hrow.columns column (List.mem_append_left _ hcolumn)
  have hselect : "select ".toList.count '?' = 0 := by decide
  have hfrom : " from ".toList.count '?' = 0 := by decide
  have hwhere : " where ".toList.count '?' = 0 := by decide
  simp only [selectRow, String.toList_append, List.count_append, hselect, hfrom, hwhere,
    List.count_eq_zero.2 hids, List.count_eq_zero.2 (h.hinted hrow.table mode),
    List.count_eq_zero.2 (h.fragment mode timeout), count_boundColumns hrow.columns]
  omega

end MarkerFree

theorem rowLockSql_raiseVersion (c : LockClauses) (timeout : LockTimeout) (table version : String)
    {ids : List String} (h : ids ≠ []) :
    c.rowLockSql ⟨table, ids, some version⟩ timeout .raiseVersion =
      .ok (some ("update " ++ table ++ " set " ++ version ++ " = ? where " ++
        boundColumns (ids ++ [version]))) := by
  rw [boundColumns_append h]
  simp [rowLockSql, ← String.toList_inj]

end LockClauses

/-- The update binds the new version besides. -/
theorem LockableRow.MarkerFree.count_update {table version : String} {ids : List String}
    (hrow : LockableRow.MarkerFree ⟨table, ids, some version⟩) :
    ("update " ++ table ++ " set " ++ version ++ " = ? where " ++
      boundColumns (ids ++ [version])).toList.count '?' = ids.length + 2 := by
  have hcondition := count_boundColumns hrow.columns
  have htable := List.count_eq_zero.2 hrow.table
  have hversion := List.count_eq_zero.2 (hrow.columns version (by simp))
  simp only [Option.toList_some, List.length_append, List.length_singleton] at hcondition htable
  have hupdate : "update ".toList.count '?' = 0 := by decide
  have hset : " set ".toList.count '?' = 0 := by decide
  have hvalue : " = ? where ".toList.count '?' = 1 := by decide
  simp only [String.toList_append, List.count_append, hupdate, htable, hset, hversion, hvalue,
    hcondition]
  omega

/-- A row with a version is restricted by the same condition in every query that locks it and in the
update that raises its version: the columns of its key, in their order, and then the version. Where
no text brings markers of its own, a query has one for each of these columns and the update has one
more. Without a version the update is refused, and a query restricts the whole key. -/
theorem row_locks_share_condition (c : LockClauses) (timeout : LockTimeout) (table version : String)
    {ids : List String} (hids : ids ≠ []) :
    let row : LockableRow := ⟨table, ids, some version⟩
    let unversioned : LockableRow := ⟨table, ids, none⟩
    (∀ mode, (RowLock.ofMode mode).selectMode? =
      if mode ∈ [.optimistic, .optimisticForceIncrement, .pessimisticForceIncrement] then none
      else some mode) ∧
    (∃ condition, Restricts (ids ++ [version]) condition ∧
      c.SelectsBy row timeout condition ∧
      c.rowLockSql row timeout (.ofMode .pessimisticForceIncrement) =
        .ok (some ("update " ++ table ++ " set " ++ version ++ " = ? where " ++ condition))) ∧
    (c.MarkerFree → row.MarkerFree →
      (∀ lock mode, RowLock.selectMode? lock = some mode →
        ∃ sql, c.rowLockSql row timeout lock = .ok (some sql) ∧
          sql.toList.count '?' = ids.length + 1) ∧
      ∃ sql, c.rowLockSql row timeout (.ofMode .pessimisticForceIncrement) = .ok (some sql) ∧
        sql.toList.count '?' = ids.length + 2) ∧
    c.rowLockSql unversioned timeout (.ofMode .pessimisticForceIncrement) =
      .error (.conflict (.missingVersionColumn "pessimistic_force_increment" table)) ∧
    ∃ condition, Restricts ids condition ∧ c.SelectsBy unversioned timeout condition := by
  intro row unversioned
  have hupdate := c.rowLockSql_raiseVersion timeout table version hids
  refine ⟨RowLock.selectMode?_ofMode, ?_, fun hclauses hrow => ⟨?_, ?_⟩, rfl, ?_⟩
  · exact ⟨_, restricts_boundColumns (by simp), c.selectsBy_boundColumns row timeout, hupdate⟩
  · intro lock mode hmode
    exact ⟨_, LockClauses.rowLockSql_of_selectMode? hmode, by
      simpa [row] using hclauses.count_selectRow hrow mode timeout⟩
  · exact ⟨_, hupdate, hrow.count_update⟩
  · have hcolumns : unversioned.idColumns ++ unversioned.versionColumn.toList = ids :=
      List.append_nil ids
    have hselects := c.selectsBy_boundColumns unversioned timeout
    rw [hcolumns] at hselects
    exact ⟨_, restricts_boundColumns hids, hselects⟩

/-- A key of two columns on Oracle, and a wait of two and a half seconds. -/
theorem two_key_columns_restricted :
    let c := (Backend.oracle.dialect { version := ⟨19, 0⟩ }).config.locking
    let row : LockableRow := ⟨"place", ["shelf", "slot"], some "version"⟩
    (["shelf", "slot"] ≠ [] ∧ c.MarkerFree ∧ row.MarkerFree) ∧
      c.rowLockSql row 2500 (.ofMode .pessimisticWrite) =
        .ok (some ("select shelf, slot from place where " ++
          "shelf = ? and slot = ? and version = ?" ++ " for update wait 3")) ∧
      (∃ condition, Restricts ["shelf", "slot", "version"] condition ∧
        c.SelectsBy row 2500 condition ∧
        c.rowLockSql row 2500 (.ofMode .pessimisticForceIncrement) =
          .ok (some ("update " ++ "place" ++ " set " ++ "version" ++ " = ? where " ++
            condition))) ∧
      ∃ sql, c.rowLockSql row 2500 (.ofMode .pessimisticForceIncrement) = .ok (some sql) ∧
        sql.toList.count '?' = 4 := by
  intro c row
  have hids : ["shelf", "slot"] ≠ [] := by decide
  have hclauses : c.MarkerFree := ⟨by decide, by decide⟩
  have hrow : row.MarkerFree := ⟨by decide, by decide⟩
  obtain ⟨-, hcondition, hmarkers, -, -⟩ :=
    row_locks_share_condition c 2500 "place" "version" hids
  exact ⟨⟨hids, hclauses, hrow⟩, by decide +kernel, hcondition, (hmarkers hclauses hrow).2⟩

end PortableSql
