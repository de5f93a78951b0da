import Mathlib.Tactic.SplitIfs
import PortableSql.Backend
import PortableSql.Proofs.Outcome
import PortableSql.Schema.Index

/-! The name of an index where it is created and where it is dropped. A dialect may put the
index into the place of its table, and it may name the table when an index is dropped; the
name in that statement then stands alone. So the two names agree unless a dialect does both
and the table is qualified. Of the databases only SQL Server does both. -/

namespace PortableSql

open Outcome

variable {d : Dialect} {i : Index}

namespace ObjectName

variable {n : ObjectName}

/-- The name has a catalog or a schema. -/
def Qualified (n : ObjectName) : Prop := n.catalog.isSome = true ∨ n.schema.isSome = true

instance : DecidablePred Qualified := fun _ => inferInstanceAs (Decidable (_ ∨ _))

theorem qualified_iff : n.Qualified ↔ n.catalog.toList ++ n.schema.toList ≠ [] := by
  cases hc : n.catalog <;> cases hs : n.schema <;> simp [Qualified, hc, hs]

theorem render_of_unqualified (h : ¬ n.Qualified) : n.render d = d.renderIdentifier n.name := by
  rw [render, parts, not_ne_iff.1 (mt qualified_iff.2 h)]
  simp

/-- The qualifiers and a dot stand before the name itself. -/
theorem render_of_qualified (h : n.Qualified) :
    ∃ qualifiers, n.render d = qualifiers ++ "." ++ d.renderIdentifier n.name := by
  refine ⟨".".intercalate ((n.catalog.toList ++ n.schema.toList).map d.renderIdentifier), ?_⟩
  have hne : (n.catalog.toList ++ n.schema.toList).map d.renderIdentifier ≠ [] :=
    mt List.map_eq_nil_iff.1 (qualified_iff.1 h)
  rw [render, parts, List.map_append, String.intercalate_append_of_ne_nil hne (by simp)]
  simp

theorem renderIdentifier_eq_render_iff :
    d.renderIdentifier n.name = n.render d ↔ ¬ n.Qualified := by
  constructor
  · intro heq h
    obtain ⟨qualifiers, hrender⟩ := render_of_qualified (d := d) h
    have hlength := congrArg String.length (heq.trans hrender)
    simp only [String.length_append, show ".".length = 1 by decide] at hlength
    omega
  · intro h
    exact (render_of_unqualified h).symm

end ObjectName

namespace Index

/-- The statement creates the index under a name. -/
def CreatedAs (d : Dialect) (i : Index) (name sql : String) : Prop :=
  sql = "create " ++ (if i.unique then "unique " else "") ++ "index " ++ name ++ " on " ++
    i.table.render d ++ " (" ++ d.renderIdentifiers i.columns ++ ")"

/-- The statement drops the index under a name, which the table or the end follows. -/
def DroppedAs (d : Dialect) (i : Index) (name sql : String) : Prop :=
  sql = "drop index " ++ (if d.can .ifExistsBeforeTableName then "if exists " else "") ++
    (name ++ if d.config.ddl.dropIndexOnTable then " on " ++ i.table.render d else "") ++
    (if d.can .ifExistsAfterTableName then " if exists" else "")

/-- The name under which the index is dropped. -/
def droppedName (d : Dialect) (i : Index) : String :=
  if d.config.ddl.dropIndexOnTable then d.renderIdentifier i.name else i.renderName d

/-- The text of the statement tells the name. -/
theorem createdAs_create_iff {name : String} :
    i.CreatedAs d name (i.create d) ↔ name = i.renderName d := by
  have hown : i.CreatedAs d (i.renderName d) (i.create d) := rfl
  constructor
  · intro h
    have heq := Eq.trans (Eq.symm h) hown
    simpa only [String.append_assoc, String.append_right_inj, String.append_left_inj] using heq
  · rintro rfl
    exact hown

theorem dropped_eq (d : Dialect) (i : Index) :
    i.dropped d = i.droppedName d ++
      if d.config.ddl.dropIndexOnTable then " on " ++ i.table.render d else "" := by
  rw [dropped, droppedName]
  split_ifs
  · rw [String.append_assoc]
  · rw [String.append_empty]

theorem droppedAs_iff_of_drop {name sql : String} (h : i.drop d = .ok sql) :
    i.DroppedAs d name sql ↔ name = i.droppedName d := by
  obtain ⟨-, -, rfl⟩ := by simpa only [drop, bind_eq_ok_iff, return_eq_ok_iff] using h
  rw [DroppedAs, dropped_eq, eq_comm]
  simp only [String.append_assoc, String.append_right_inj, String.append_left_inj]

/-- The names agree unless only the first one is in the place of a qualified table. -/
theorem droppedName_eq_renderName_iff :
    i.droppedName d = i.renderName d ↔
      ¬ (d.can .qualifyIndexName = true ∧ d.config.ddl.dropIndexOnTable = true ∧
        i.table.Qualified) := by
  rw [droppedName]
  by_cases hdrop : d.config.ddl.dropIndexOnTable = true
  · rw [if_pos hdrop, renderName]
    by_cases hqualify : d.can .qualifyIndexName = true
    · rw [if_pos hqualify]
      have hsibling := ObjectName.renderIdentifier_eq_render_iff (d := d)
        (n := i.table.sibling i.name)
      simp only [hqualify, hdrop, true_and]
      exact hsibling
    · simp [hqualify]
  · simp [hdrop]

end Index

namespace Backend

/-- No database wants `if exists` behind the name of a table. -/
theorem can_ifExistsAfterTableName (b : Backend) (info : ResolutionInfo) :
    (b.dialect info).can .ifExistsAfterTableName = false := by
  rw [Dialect.can, config_dialect]
  cases b with
  | standard | postgresql | duckdb => rfl
  | mysql =>
    cases hmodern : info.version.atLeast ⟨8, 0⟩ <;>
      simp +decide [profile, Mysql.profile, Mysql.config, hmodern]
  | oracle => simp +decide [profile, Oracle.profile, Oracle.config]
  | sqlserver => simp +decide [profile, SqlServer.profile, SqlServer.config]
  | sqlite => simp +decide [profile, Sqlite.profile, Sqlite.config]

/-- Only SQL Server names the table when it drops an index that has the place of its table. -/
theorem drops_qualified_on_table_iff (b : Backend) (info : ResolutionInfo) :
    (b.dialect info).can .qualifyIndexName = true ∧
      (b.dialect info).config.ddl.dropIndexOnTable = true ↔ b = .sqlserver := by
  rw [Dialect.can, config_dialect]
  cases b with
  | sqlserver =>
    have hqualify : (sqlserver.profile.config info.version).capabilities.has .qualifyIndexName := by
      simp +decide [profile, SqlServer.profile, SqlServer.config]
    exact iff_of_true ⟨hqualify, rfl⟩ rfl
  | mysql =>
    refine iff_of_false (fun h => absurd h.1 ?_) (by decide)
    cases hmodern : info.version.atLeast ⟨8, 0⟩ <;>
      simp +decide [profile, Mysql.profile, Mysql.config, hmodern]
  | standard | postgresql | oracle | sqlite | duckdb =>
    exact iff_of_false (fun h => Bool.false_ne_true h.2) (by decide)

end Backend

theorem Index.exists_drop (b : Backend) (info : ResolutionInfo) (i : Index) :
    ∃ sql, i.drop (b.dialect info) = .ok sql := by
  have hcheck : (b.dialect info).checkTableDrop = .ok () := by
    rw [Dialect.checkTableDrop, Backend.can_ifExistsAfterTableName]
    simp
  exact ⟨_, bind_eq_ok_iff.2 ⟨(), hcheck, rfl⟩⟩

/-- An index can always be dropped, and the statement names it as the one that creates it does,
unless the database is SQL Server and the table is qualified. -/
theorem index_names_agree_iff (b : Backend) (info : ResolutionInfo) (i : Index) :
    let d := b.dialect info
    ∃ created dropped sql, i.drop d = .ok sql ∧
      (∀ name, i.CreatedAs d name (i.create d) ↔ name = created) ∧
      (∀ name, i.DroppedAs d name sql ↔ name = dropped) ∧
      (dropped = created ↔ ¬ (b = .sqlserver ∧ i.table.Qualified)) := by
  intro d
  obtain ⟨sql, hdrop⟩ := Index.exists_drop b info i
  refine ⟨i.renderName d, i.droppedName d, sql, hdrop, fun _ => Index.createdAs_create_iff,
    fun _ => Index.droppedAs_iff_of_drop hdrop, ?_⟩
  rw [Index.droppedName_eq_renderName_iff, ← and_assoc]
  exact not_congr (and_congr_left' (Backend.drops_qualified_on_table_iff b info))

/-- On SQL Server an index of a qualified table is created under a qualified name. -/
theorem index_names_differ :
    let d := Backend.sqlserver.dialect { version := ⟨16, 0⟩ }
    let title : Index :=
      { name := "idx_title", table := { schema := some "library", name := "book" },
        columns := ["title"] }
    let dropped := "drop index if exists idx_title on library.book"
    title.table.Qualified ∧
      title.create d = "create index library.idx_title on library.book (title)" ∧
      title.CreatedAs d "library.idx_title" (title.create d) ∧ title.drop d = .ok dropped ∧
      title.DroppedAs d "idx_title" dropped ∧ "idx_title" ≠ "library.idx_title" := by
  intro d title dropped
  have hdrop : title.drop d = .ok dropped := by decide +kernel
  refine ⟨by decide, by decide +kernel, ?_, hdrop, ?_, by decide⟩
  · exact Index.createdAs_create_iff.2 (by decide +kernel)
  · exact (Index.droppedAs_iff_of_drop hdrop).2 (by decide +kernel)

end PortableSql
