import PortableSql.Proofs.Schema.Uniqueness

/-! The statements that create a table, as a whole. Between the parentheses of the first one stands
a list of items with commas between them: the definitions of the columns, then the primary key, the
unique keys and the conditions, as far as they are there. Comments are either parts of the
definitions and of that statement, or statements of their own, or they are not written. To say
that each is written once, the statements are compared with those of the table without comments:
whatever is taken from there holds none. -/

namespace PortableSql

open Outcome

variable {d : Dialect} {t : Table} {c : Column}

namespace Column

/-- The column without its comment. -/
def uncommented (c : Column) : Column := { c with comment := none }

theorem commentClause_eq (d : Dialect) (c : Column) :
    c.commentClause d = if d.config.ddl.inlineComments then c.remark else "" := by
  rw [commentClause, remark]
  cases c.comment with
  | none => simp
  | some comment => rfl

/-- A comment changes nothing but the end of a definition. -/
theorem definition_eq (d : Dialect) (c : Column) (inPrimaryKey : Bool) :
    c.definition d inPrimaryKey = do
      let bare ← c.uncommented.definition d inPrimaryKey
      return bare ++ c.commentClause d := by
  have hbody : c.uncommented.body d inPrimaryKey = c.body d inPrimaryKey := rfl
  have hunique : c.uncommented.uniqueClause d inPrimaryKey = c.uniqueClause d inPrimaryKey := by
    rw [uniqueClause_eq, uniqueClause_eq]
    rfl
  have hcheck : c.uncommented.checkClause d = c.checkClause d := rfl
  have hcomment : c.uncommented.commentClause d = "" := rfl
  rw [definition, definition, hbody, hunique, hcheck, hcomment, bind_assoc]
  simp only [pure_bind, String.append_empty]
  rfl

theorem exists_bare {inPrimaryKey : Column → Bool} {columns : List Column}
    {definitions : List String} (mode : d.config.ddl.inlineComments = true)
    (h : List.Forall₂ (fun c text => c.definition d (inPrimaryKey c) = .ok text)
      columns definitions) :
    ∃ bare, List.Forall₂
        (fun c text => c.uncommented.definition d (inPrimaryKey c) = .ok text) columns bare ∧
      definitions = List.zipWith (fun text c => text ++ c.remark) bare columns := by
  induction h with
  | nil => exact ⟨[], .nil, rfl⟩
  | @cons c text columns texts hdefined hrest ih =>
    obtain ⟨bares, hbares, rfl⟩ := ih
    rw [c.definition_eq, bind_eq_ok_iff] at hdefined
    obtain ⟨bare, hbare, htext⟩ := hdefined
    rw [return_eq_ok_iff, commentClause_eq, if_pos mode] at htext
    exact ⟨bare :: bares, .cons hbare hbares, by rw [htext]; rfl⟩

theorem definition_uncommented (h : d.config.ddl.inlineComments = false) (inPrimaryKey : Bool) :
    c.uncommented.definition d inPrimaryKey = c.definition d inPrimaryKey := by
  rw [c.definition_eq, commentClause_eq, h]
  simp

end Column

namespace Table

/-- The table without comments on itself or its columns. -/
def uncommented (t : Table) : Table :=
  { t with columns := t.columns.map Column.uncommented, comment := none }

/-- Comments do not decide which keys there are. -/
theorem allUniqueKeys_uncommented (d : Dialect) (t : Table) :
    t.uncommented.allUniqueKeys d = t.allUniqueKeys d := by
  have hneeds : t.uncommented.needsKey d ∘ Column.uncommented = t.needsKey d := by
    funext c
    rw [Function.comp_apply, Bool.eq_iff_iff, needsKey_iff, needsKey_iff]
    rfl
  have hkey : t.uncommented.columnKey ∘ Column.uncommented = t.columnKey := rfl
  simp only [allUniqueKeys]
  rw [show t.uncommented.columns = t.columns.map Column.uncommented from rfl, List.filter_map,
    List.map_map, hneeds, hkey]
  rfl

/-- Where comments are parts of definitions, each definition ends with the one of its column. -/
theorem exists_bare_definitions {definitions : List String}
    (mode : d.config.ddl.inlineComments = true) (h : t.definitions d = .ok definitions) :
    ∃ bare, t.uncommented.definitions d = .ok bare ∧
      definitions = List.zipWith (fun text c => text ++ c.remark) bare t.columns := by
  simp only [Table.definitions, mapM_eq_ok_iff] at h ⊢
  simp only [uncommented, List.forall₂_map_left_iff]
  exact Column.exists_bare mode h

/-- Where comments are statements, or nothing at all, the definitions hold none. -/
theorem definitions_uncommented (mode : d.config.ddl.inlineComments = false) :
    t.uncommented.definitions d = t.definitions d := by
  simp only [definitions, uncommented, List.mapM_map]
  exact congrArg (fun f => List.mapM f t.columns)
    (funext fun c => Column.definition_uncommented mode _)

/-- What is written of a table apart from its comments: definitions of its columns, what stands
behind them, and statements that add keys. -/
inductive Drafts (d : Dialect) (t : Table) : List String → List String → List String → Prop
  | written {bare primary unique checks texts : List String} {generated : List UniqueKey}
      (covered : t.uncommented.Covers d t.uncommented.columns bare generated)
      (parts : t.Parts d (t.uniqueKeys ++ generated) primary unique checks)
      (added : UniqueKey.AllAddedBy d (t.uniqueKeys ++ generated) texts) :
      Drafts d t bare (primary ++ unique ++ checks) texts

/-- The ways in which the comments of a table get into the statements that create it. -/
inductive Documents (d : Dialect) (t : Table) : List String → Prop
  /-- The definition of a column ends with its comment, and the one on the table is behind the
  items. -/
  | inline {bare clauses texts : List String} (mode : d.config.ddl.inlineComments = true)
      (draft : t.Drafts d bare clauses texts) :
      Documents d t
        (t.statement d (List.zipWith (fun text c => text ++ c.remark) bare t.columns ++ clauses)
          t.remark :: texts)
  /-- Each comment is a statement between the creation and the keys. -/
  | separate {bare clauses texts : List String} (mode : d.config.ddl.inlineComments = false)
      (on : d.can .commentOn = true) (draft : t.Drafts d bare clauses texts) :
      Documents d t (t.statement d (bare ++ clauses) "" :: t.remarks d ++ texts)
  /-- No comment is written. -/
  | unwritten {bare clauses texts : List String} (mode : d.config.ddl.inlineComments = false)
      (off : d.can .commentOn = false) (draft : t.Drafts d bare clauses texts) :
      Documents d t (t.statement d (bare ++ clauses) "" :: texts)

theorem drafts_of_definitions {bare texts : List String}
    (hbare : t.uncommented.definitions d = .ok bare)
    (htexts : t.uniqueKeyStatements d = .ok texts) : t.Drafts d bare (t.clauses d) texts := by
  have hkeys := allUniqueKeys_uncommented d t
  have covered : t.uncommented.Covers d t.uncommented.columns bare _ :=
    covers_iff.2 ⟨mapM_eq_ok_iff.1 hbare, rfl⟩
  have parts : t.Parts d (t.allUniqueKeys d) _ _ _ := parts_iff.2 ⟨rfl, rfl, rfl⟩
  have added := uniqueKeyStatements_eq_ok_iff.1 htexts
  rw [← hkeys] at parts added
  exact .written covered parts added

theorem definitions_ne_nil {definitions : List String} (hcolumns : t.columns ≠ [])
    (h : t.definitions d = .ok definitions) : definitions ≠ [] := by
  rintro rfl
  have hlength := (mapM_eq_ok_iff.1 h).length_eq
  exact hcolumns (List.length_eq_zero_iff.1 hlength)

theorem documents_of_create {statements : List String} (hcolumns : t.columns ≠ [])
    (created : t.create d = .ok statements) : t.Documents d statements := by
  obtain ⟨definitions, texts, hdefinitions, htexts, rfl⟩ := create_eq_ok_iff.1 created
  rw [creation_eq_statement (definitions_ne_nil hcolumns hdefinitions), inlineComment_eq,
    commentStatements_eq]
  cases mode : d.config.ddl.inlineComments with
  | true =>
    obtain ⟨bare, hbare, rfl⟩ := exists_bare_definitions mode hdefinitions
    simpa using Documents.inline mode (drafts_of_definitions hbare htexts)
  | false =>
    rw [← definitions_uncommented mode] at hdefinitions
    have draft := drafts_of_definitions hdefinitions htexts
    cases on : d.can .commentOn with
    | true => simpa using Documents.separate mode on draft
    | false => simpa using Documents.unwritten mode on draft

/-- Keys of single columns are never written within the creation, so its keys are the declared
ones. -/
theorem Parts.declared {primary unique checks : List String}
    (h : t.Parts d (t.allUniqueKeys d) primary unique checks) :
    t.Parts d t.uniqueKeys primary unique checks := by
  refine { h with unique_keys := fun style => ?_ }
  have hnone : ∀ c ∈ t.columns, ¬ t.needsKey d c = true := by
    intro c _ hneeds
    have hlacks := (needsKey_iff.1 hneeds).2.1
    rw [style] at hlacks
    cases hlacks
  rw [h.unique_keys style, allUniqueKeys, List.filter_eq_nil_iff.2 hnone, List.map_nil,
    List.append_nil]

end Table

/-- Between the parentheses of the first statement that creates a table stands the list of its
items with commas between them: the definition of every column, the primary key if there is one,
the unique keys if they are written there, and the conditions if they are supported. Every comment
is written once, within the first statement or as a statement of its own, or no comment is
written. -/
theorem create_joins_items_and_comments {d : Dialect} {t : Table} {statements : List String}
    (hcolumns : t.columns ≠ []) (created : t.create d = .ok statements) :
    (∃ definitions primary unique checks behind comments texts,
      List.Forall₂ (fun c text => c.definition d (decide (c.name ∈ t.primaryKey)) = .ok text)
        t.columns definitions ∧
      t.Parts d t.uniqueKeys primary unique checks ∧ t.Remarked d behind comments ∧
      statements = t.statement d (definitions ++ primary ++ unique ++ checks) behind ::
        comments ++ texts) ∧
    t.Documents d statements := by
  refine ⟨?_, Table.documents_of_create hcolumns created⟩
  obtain ⟨definitions, texts, hdefinitions, -, rfl⟩ := Table.create_eq_ok_iff.1 created
  have parts := (Table.parts_iff (d := d) (t := t)).2 ⟨rfl, rfl, rfl⟩
  refine ⟨definitions, _, _, _, _, _, texts, mapM_eq_ok_iff.1 hdefinitions, parts.declared,
    Table.remarked_iff.2 ⟨rfl, rfl⟩, ?_⟩
  rw [Table.creation_eq_statement (Table.definitions_ne_nil hcolumns hdefinitions),
    Table.clauses, ← List.append_assoc, ← List.append_assoc]

/-- A table of DuckDB with a key of each kind, a condition and two comments. -/
theorem create_writes_comments_behind :
    let d := Backend.duckdb.dialect { version := ⟨1, 0⟩ }
    let id : Column := { name := "id", code := .integer, language := .int, nullable := false }
    let title : Column :=
      { name := "title", code := .varchar, language := .string, comment := some "reader's title" }
    let t : Table :=
      { name := { name := "loan" }, columns := [id, title], primaryKey := ["id"],
        uniqueKeys := [⟨"uk_title", { name := "loan" }, ["title"]⟩], checks := ["id > 0"],
        comment := some "loans" }
    let statements :=
      ["create table loan (id integer not null, title varchar, primary key (id), " ++
          "constraint uk_title unique (title), check (id > 0))",
        "comment on table loan is 'loans'",
        "comment on column loan.title is 'reader''s title'"]
    t.columns ≠ [] ∧ t.create d = .ok statements ∧ t.Documents d statements := by
  intro d id title t statements
  have hcolumns : t.columns ≠ [] := by simp [t]
  have created : t.create d = .ok statements := by decide +kernel
  exact ⟨hcolumns, created, (create_joins_items_and_comments hcolumns created).2⟩

end PortableSql
