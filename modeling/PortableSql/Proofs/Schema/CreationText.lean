import Mathlib.Tactic.SplitIfs
import PortableSql.Proofs.Outcome
import PortableSql.Proofs.Text.Joined
import PortableSql.Schema.Table

/-! What the statements that create a table read. The first one holds the definitions of the
columns and behind them the primary key, unique keys and conditions, each if there is one and the
dialect writes it there. Comments on the table and its columns stand within it or are statements
of their own. Keys that are not within it are added by statements of their own, as constraints or
as indexes. All this is said here in full, and the functions that create a table write it. -/

namespace PortableSql

open Outcome

variable {d : Dialect} {t : Table} {c : Column} {k : UniqueKey}

namespace UniqueKeyStyle

variable {style : UniqueKeyStyle}

/-- Only a nullable column can lack a clause that makes it unique. -/
theorem columnClause?_eq (style : UniqueKeyStyle) (c : Column) :
    style.columnClause? c =
      if style = .skipNullable ∧ c.nullable = true then none else some " unique" := by
  cases style <;> simp [columnClause?]

theorem addsInline_iff : style.addsInline = true ↔ style = .createTable := by
  cases style <;> simp [addsInline]

end UniqueKeyStyle

/-- The statement adds the key to its table: as a constraint, or as an index without nulls. -/
inductive UniqueKey.AddedBy (d : Dialect) (k : UniqueKey) : String → Prop
  | constraint (style : d.uniqueKeys ≠ .skipNullable) (alter : d.can .hasAlterTable = true) :
      AddedBy d k
        ("alter table " ++ (if d.can .ifExistsAfterAlterTable then "if exists " else "") ++
          k.table.render d ++ " add constraint " ++ d.renderIdentifier k.name ++ " unique (" ++
          ", ".intercalate (k.columns.map d.renderIdentifier) ++ ")")
  | index (style : d.uniqueKeys = .skipNullable) :
      AddedBy d k
        ("create unique index " ++ d.renderIdentifier k.name ++ " on " ++ k.table.render d ++
          " (" ++ ", ".intercalate (k.columns.map d.renderIdentifier) ++ ") where " ++
          " and ".intercalate (k.columns.map fun c => d.renderIdentifier c ++ " is not null"))

/-- The statements add the keys, each its own, unless keys are written within the creation. -/
inductive UniqueKey.AllAddedBy (d : Dialect) (keys : List UniqueKey) : List String → Prop
  | within (style : d.uniqueKeys = .createTable) : AllAddedBy d keys []
  | separate {texts : List String} (style : d.uniqueKeys ≠ .createTable)
      (written : List.Forall₂ (fun k text => k.AddedBy d text) keys texts) :
      AllAddedBy d keys texts

/-- The comment as it stands in a definition. -/
def Column.remark (c : Column) : String :=
  c.comment.elim "" fun comment => " comment " ++ Literal.string comment

namespace Table

/-- What stands behind the definitions of the columns when the table has these unique keys. -/
structure Parts (d : Dialect) (t : Table) (keys : List UniqueKey)
    (primary unique checks : List String) : Prop where
  no_primary : t.primaryKey = [] → primary = []
  primary_key : t.primaryKey ≠ [] →
    primary = ["primary key (" ++ ", ".intercalate (t.primaryKey.map d.renderIdentifier) ++ ")"]
  no_unique : d.uniqueKeys ≠ .createTable → unique = []
  unique_keys : d.uniqueKeys = .createTable →
    unique = keys.map fun k => "constraint " ++ d.renderIdentifier k.name ++ " unique (" ++
      ", ".intercalate (k.columns.map d.renderIdentifier) ++ ")"
  no_checks : d.can .tableCheck = false → checks = []
  table_checks : d.can .tableCheck = true →
    checks = t.checks.map fun condition => "check (" ++ condition ++ ")"

/-- The comment as it stands behind the items. -/
def remark (t : Table) : String :=
  t.comment.elim "" fun comment => " comment=" ++ Literal.string comment

/-- The comments as statements, that on the table first. -/
def remarks (d : Dialect) (t : Table) : List String :=
  (t.comment.toList.map fun comment =>
    "comment on table " ++ t.name.render d ++ " is " ++ Literal.string comment) ++
  t.columns.flatMap fun c => c.comment.toList.map fun comment =>
    "comment on column " ++ t.name.render d ++ "." ++ d.renderIdentifier c.name ++ " is " ++
      Literal.string comment

/-- What stands behind the items of the creation, and the statements between it and the keys. -/
inductive Remarked (d : Dialect) (t : Table) : String → List String → Prop
  | within (mode : d.config.ddl.inlineComments = true) : Remarked d t t.remark []
  | separate (mode : d.config.ddl.inlineComments = false) (on : d.can .commentOn = true) :
      Remarked d t "" (t.remarks d)
  | unwritten (mode : d.config.ddl.inlineComments = false) (off : d.can .commentOn = false) :
      Remarked d t "" []

/-- The statement that creates a table out of definitions and what stands behind them. -/
def creation (d : Dialect) (t : Table) (definitions clauses : List String) (behind : String) :
    String :=
  d.config.ddl.createTable ++ " " ++ t.name.render d ++ " (" ++
    (", ".intercalate definitions ++ String.join (clauses.map (", " ++ ·))) ++ ")" ++ behind ++
    d.config.ddl.tableType

/-- The statement that creates a table out of a list of items. -/
def statement (d : Dialect) (t : Table) (items : List String) (behind : String) : String :=
  d.config.ddl.createTable ++ " " ++ t.name.render d ++ " (" ++ ", ".intercalate items ++ ")" ++
    behind ++ d.config.ddl.tableType

end Table

theorem UniqueKey.create_eq_ok_iff {text : String} : k.create d = .ok text ↔ k.AddedBy d text := by
  by_cases style : d.uniqueKeys = .skipNullable
  · rw [create, style, Except.ok.injEq]
    constructor
    · rintro rfl
      exact .index style
    · rintro (⟨hstyle, -⟩ | -)
      · exact absurd style hstyle
      · rfl
  · have hcreate : k.create d = .ok text ↔ d.can .hasAlterTable = true ∧
        text = d.alterTable k.table ++ " add constraint " ++ d.renderIdentifier k.name ++
          " unique (" ++ d.renderIdentifiers k.columns ++ ")" := by
      rw [create]
      split
      · rw [Dialect.demand_bind_eq_ok_iff, return_eq_ok_iff]
      · rw [Dialect.demand_bind_eq_ok_iff, return_eq_ok_iff]
      · contradiction
    rw [hcreate]
    constructor
    · rintro ⟨alter, rfl⟩
      exact .constraint style alter
    · rintro (⟨-, alter⟩ | hstyle)
      · exact ⟨alter, rfl⟩
      · exact absurd hstyle style

namespace Table

theorem uniqueKeyStatements_eq_ok_iff {texts : List String} :
    t.uniqueKeyStatements d = .ok texts ↔ UniqueKey.AllAddedBy d (t.allUniqueKeys d) texts := by
  by_cases style : d.uniqueKeys = .createTable
  · rw [uniqueKeyStatements, if_pos (UniqueKeyStyle.addsInline_iff.2 style), Except.ok.injEq]
    constructor
    · rintro rfl
      exact .within style
    · rintro (- | ⟨hstyle, -⟩)
      · rfl
      · exact absurd style hstyle
  · rw [uniqueKeyStatements, if_neg (mt UniqueKeyStyle.addsInline_iff.1 style), mapM_eq_ok_iff]
    simp only [UniqueKey.create_eq_ok_iff]
    constructor
    · exact .separate style
    · rintro (hstyle | ⟨-, written⟩)
      · exact absurd hstyle style
      · exact written

theorem uniqueKeyClauses_eq (d : Dialect) (t : Table) :
    t.uniqueKeyClauses d =
      if d.uniqueKeys = .createTable then (t.allUniqueKeys d).map (·.clause d) else [] :=
  if_congr UniqueKeyStyle.addsInline_iff rfl rfl

theorem parts_iff {primary unique checks : List String} :
    t.Parts d (t.allUniqueKeys d) primary unique checks ↔
      primary = t.primaryKeyClause d ∧ unique = t.uniqueKeyClauses d ∧
        checks = t.checkClauses d := by
  rw [primaryKeyClause, uniqueKeyClauses_eq, checkClauses]
  constructor
  · intro h
    refine ⟨?_, ?_, ?_⟩
    · split_ifs with hprimary
      · exact h.no_primary hprimary
      · exact h.primary_key hprimary
    · split_ifs with style
      · exact h.unique_keys style
      · exact h.no_unique style
    · split_ifs with hcan
      · exact h.table_checks hcan
      · exact h.no_checks (Bool.eq_false_iff.2 hcan)
  · rintro ⟨rfl, rfl, rfl⟩
    constructor
    · exact fun h => if_pos h
    · exact fun h => if_neg h
    · exact fun h => if_neg h
    · exact fun h => if_pos h
    · exact fun h => if_neg (Bool.eq_false_iff.1 h)
    · exact fun h => if_pos h

theorem inlineComment_eq (d : Dialect) (t : Table) :
    t.inlineComment d = if d.config.ddl.inlineComments then t.remark else "" := by
  rw [inlineComment, remark]
  cases t.comment with
  | none => simp
  | some comment => rfl

theorem commentStatements_eq (d : Dialect) (t : Table) :
    t.commentStatements d =
      if d.can .commentOn ∧ ¬ d.config.ddl.inlineComments then t.remarks d else [] := rfl

theorem remarked_iff {behind : String} {comments : List String} :
    t.Remarked d behind comments ↔
      behind = t.inlineComment d ∧ comments = t.commentStatements d := by
  rw [inlineComment_eq, commentStatements_eq]
  constructor
  · rintro (mode | ⟨mode, on⟩ | ⟨mode, off⟩)
    · simp [mode]
    · simp [mode, on]
    · simp [mode, off]
  · rintro ⟨rfl, rfl⟩
    cases mode : d.config.ddl.inlineComments with
    | true => simpa using Remarked.within mode
    | false =>
      cases on : d.can .commentOn with
      | true => simpa using Remarked.separate mode on
      | false => simpa using Remarked.unwritten mode on

/-- The items behind the definitions bring their commas with them. -/
theorem creation_eq_statement {definitions : List String} (h : definitions ≠ [])
    (clauses : List String) (behind : String) :
    t.creation d definitions clauses behind = t.statement d (definitions ++ clauses) behind := by
  rw [creation, Text.intercalate_append h, statement]

theorem create_eq_ok_iff {statements : List String} :
    t.create d = .ok statements ↔ ∃ definitions texts, t.definitions d = .ok definitions ∧
      t.uniqueKeyStatements d = .ok texts ∧
      statements = t.creation d definitions (t.clauses d) (t.inlineComment d) ::
        t.commentStatements d ++ texts := by
  simp only [create, bind_eq_ok_iff, return_eq_ok_iff]
  constructor
  · rintro ⟨definitions, hdefinitions, texts, htexts, rfl⟩
    exact ⟨definitions, texts, hdefinitions, htexts, rfl⟩
  · rintro ⟨definitions, texts, hdefinitions, htexts, rfl⟩
    exact ⟨definitions, hdefinitions, texts, htexts, rfl⟩

end Table

end PortableSql
