import PortableSql.Proofs.ColumnType.ColumnName
import PortableSql.Proofs.Schema.Uniqueness
import PortableSql.Proofs.Text.Backtick

/-! Portable names in the creation of a table. Where a dialect writes no backticks of its own,
the backticks around portable names go when the names are rendered, so none is left in a
definition, a clause, a comment or the statement of a declared key. The name of a key over a
single column is put together from the names of the table and the column as they are given,
and there their backticks stay. -/

namespace PortableSql

open Outcome

/-- No text that a configuration contributes to the creation of a table has a backtick. -/
structure Config.HasNoBacktick (c : Config) : Prop where
  quote : c.quote.HasNoBacktick
  createTable : BacktickFree c.ddl.createTable
  tableType : BacktickFree c.ddl.tableType
  nullColumn : BacktickFree c.ddl.nullColumn
  identityClause : BacktickFree c.identity.columnClause
  trueLiteral : BacktickFree c.trueLiteral
  falseLiteral : BacktickFree c.falseLiteral

/-- Neither the configuration nor a type name has a backtick. -/
structure Dialect.HasNoBacktick (d : Dialect) : Prop where
  config : d.config.HasNoBacktick
  typeNames : ∀ n ∈ d.tables.typeNames.registered, BacktickFree n.pattern

/-- All parts of the name are portable. -/
def ObjectName.Portable (n : ObjectName) : Prop := ∀ part ∈ n.parts, PortableName part

/-- The names of the key, of its table and of its columns are portable. -/
structure UniqueKey.Portable (k : UniqueKey) : Prop where
  name : PortableName k.name
  table : k.table.Portable
  columns : ∀ column ∈ k.columns, PortableName column

/-- A given text has no backtick. -/
def DefaultValue.HasNoBacktick : DefaultValue → Prop
  | string s => BacktickFree s
  | expression sql => BacktickFree sql
  | null | boolean _ | integer _ | float _ => True

/-- The name is portable, and no given text has a backtick. -/
structure Column.Portable (c : Column) : Prop where
  name : PortableName c.name
  sqlType : ∀ sqlType ∈ c.sqlType, BacktickFree sqlType
  default : ∀ value ∈ c.default, value.HasNoBacktick
  check : ∀ condition ∈ c.check, BacktickFree condition
  comment : ∀ comment ∈ c.comment, BacktickFree comment

/-- All names are portable, and no given text has a backtick. -/
structure Table.Portable (t : Table) : Prop where
  name : t.name.Portable
  columns : ∀ c ∈ t.columns, c.Portable
  primaryKey : ∀ column ∈ t.primaryKey, PortableName column
  uniqueKeys : ∀ k ∈ t.uniqueKeys, k.Portable
  checks : ∀ condition ∈ t.checks, BacktickFree condition
  comment : ∀ comment ∈ t.comment, BacktickFree comment

namespace Column

theorem backtickFree_uniqueClause (d : Dialect) (c : Column) (inPrimaryKey : Bool) :
    BacktickFree (c.uniqueClause d inPrimaryKey) := by
  rw [uniqueClause_eq]
  exact backtickFree_ite (fun _ => by decide) fun _ => by decide

theorem backtickFree_checkClause (d : Dialect) {c : Column} (hc : c.Portable) :
    BacktickFree (c.checkClause d) := by
  rw [checkClause]
  split
  · rename_i condition hcondition
    refine backtickFree_ite (fun _ => ?_) fun _ => by decide
    simp +decide [hc.check condition hcondition]
  · decide

theorem backtickFree_commentClause (d : Dialect) {c : Column} (hc : c.Portable) :
    BacktickFree (c.commentClause d) := by
  rw [commentClause]
  split
  · rename_i comment hcomment
    refine backtickFree_ite (fun _ => ?_) fun _ => by decide
    simp +decide [backtickFree_string, hc.comment comment hcomment]
  · decide

end Column

namespace Table

theorem backtickFree_columnKey {t : Table} {c : Column} :
    BacktickFree (t.columnKey c).name ↔ BacktickFree t.name.name ∧ BacktickFree c.name := by
  simp +decide [columnKey]

/-- The name of a key over a single column is written as it is put together. -/
theorem renderIdentifier_columnKey (d : Dialect) (t : Table) (c : Column) :
    d.renderIdentifier (t.columnKey c).name = (t.columnKey c).name :=
  QuoteStyle.requote_of_head?_ne (by simp [columnKey, backtick])

theorem backtickFree_checkClauses (d : Dialect) {t : Table} (ht : t.Portable) :
    ∀ text ∈ t.checkClauses d, BacktickFree text := by
  rw [checkClauses]
  split_ifs
  · refine List.forall_mem_map.2 fun condition hcondition => ?_
    simp +decide [ht.checks condition hcondition]
  · simp

theorem backtickFree_inlineComment (d : Dialect) {t : Table} (ht : t.Portable) :
    BacktickFree (t.inlineComment d) := by
  rw [inlineComment]
  split
  · rename_i comment hcomment
    refine backtickFree_ite (fun _ => ?_) fun _ => by decide
    simp +decide [backtickFree_string, ht.comment comment hcomment]
  · decide

end Table

section Statements

variable {d : Dialect} (hd : d.HasNoBacktick)

include hd

namespace Dialect

theorem backtickFree_renderIdentifier {name : String} (h : PortableName name) :
    BacktickFree (d.renderIdentifier name) :=
  QuoteStyle.backtickFree_requote hd.config.quote h

theorem backtickFree_renderIdentifiers {names : List String}
    (h : ∀ name ∈ names, PortableName name) : BacktickFree (d.renderIdentifiers names) := by
  rw [renderIdentifiers, backtickFree_intercalate (by decide)]
  exact List.forall_mem_map.2 fun name hname => backtickFree_renderIdentifier hd (h name hname)

theorem backtickFree_render {n : ObjectName} (h : n.Portable) : BacktickFree (n.render d) := by
  rw [ObjectName.render, backtickFree_intercalate (by decide)]
  exact List.forall_mem_map.2 fun part hpart => backtickFree_renderIdentifier hd (h part hpart)

theorem backtickFree_ddlTypeName {code : TypeCode} {size : Size} {name : String}
    (h : d.ddlTypeName code size = .ok name) : BacktickFree name := by
  obtain ⟨resolved, hresolved, hclosed⟩ := bind_eq_ok_iff.1 h
  split_ifs at hclosed
  obtain rfl := Except.ok.inj hclosed
  rw [resolveTypeName] at hresolved
  split at hresolved
  · rename_i found hfound
    obtain rfl := Except.ok.inj hresolved
    obtain ⟨n, hmem, -, rfl⟩ := TypeNameTable.lookUp_eq_some hfound
    exact backtickFree_fill (hd.typeNames n hmem)
  · cases hresolved

end Dialect

theorem DefaultValue.backtickFree_render {value : DefaultValue} (h : value.HasNoBacktick) :
    BacktickFree (value.render d) := by
  cases value with
  | null => exact (by decide : BacktickFree "null")
  | boolean b =>
    exact backtickFree_ite (fun _ => hd.config.trueLiteral) fun _ => hd.config.falseLiteral
  | integer n => exact backtickFree_int n
  | float x => exact backtickFree_binary64 x
  | string s => exact backtickFree_string.2 h
  | expression sql => exact h

namespace Column

variable {c : Column} (hc : c.Portable) {inPrimaryKey : Bool}

include hc

theorem backtickFree_typeName {name : String} (h : c.typeName d = .ok name) :
    BacktickFree name := by
  rw [typeName] at h
  split at h
  · rename_i sqlType hsqlType
    obtain rfl := Except.ok.inj h
    exact hc.sqlType _ hsqlType
  · exact Dialect.backtickFree_ddlTypeName hd h

theorem backtickFree_valueClauses : BacktickFree (c.valueClauses d inPrimaryKey) := by
  rw [valueClauses, backtickFree_append]
  constructor
  · split
    · rename_i value hvalue
      simp +decide [DefaultValue.backtickFree_render hd (hc.default value hvalue)]
    · decide
  · exact backtickFree_ite (fun _ => hd.config.nullColumn) fun _ => by decide

theorem backtickFree_body {body : String} (h : c.body d inPrimaryKey = .ok body) :
    BacktickFree body := by
  rw [Column.body] at h
  split_ifs at h with hidentity htype
  · obtain ⟨-, -, name, hname, rfl⟩ := by
      simpa only [bind_eq_ok_iff, return_eq_ok_iff] using h
    simp +decide [backtickFree_typeName hd hc hname, hd.config.identityClause]
  · obtain ⟨-, -, rfl⟩ := by simpa only [bind_eq_ok_iff, return_eq_ok_iff] using h
    exact hd.config.identityClause
  · obtain ⟨name, hname, rfl⟩ := by simpa only [bind_eq_ok_iff, return_eq_ok_iff] using h
    simp +decide [backtickFree_typeName hd hc hname, backtickFree_valueClauses hd hc]

theorem backtickFree_definition {definition : String}
    (h : c.definition d inPrimaryKey = .ok definition) : BacktickFree definition := by
  obtain ⟨body, hbody, rfl⟩ := by
    simpa only [Column.definition, bind_eq_ok_iff, return_eq_ok_iff] using h
  simp [Dialect.backtickFree_renderIdentifier hd hc.name, backtickFree_body hd hc hbody,
    backtickFree_uniqueClause, backtickFree_checkClause d hc, backtickFree_commentClause d hc]

end Column

namespace UniqueKey

variable {k : UniqueKey} (hk : k.Portable)

include hk

theorem backtickFree_clause : BacktickFree (k.clause d) := by
  simp +decide [clause, Dialect.backtickFree_renderIdentifier hd hk.name,
    Dialect.backtickFree_renderIdentifiers hd hk.columns]

theorem backtickFree_create {text : String} (h : k.create d = .ok text) : BacktickFree text := by
  have hname := Dialect.backtickFree_renderIdentifier hd hk.name
  have hcolumns := Dialect.backtickFree_renderIdentifiers hd hk.columns
  have htable := Dialect.backtickFree_render hd hk.table
  rw [Dialect.renderIdentifiers] at hcolumns
  rcases create_eq_ok_iff.1 h with ⟨-, -⟩ | -
  · have hexists : BacktickFree (if d.can .ifExistsAfterAlterTable then "if exists " else "") :=
      backtickFree_ite (fun _ => by decide) fun _ => by decide
    simp +decide [hexists, htable, hname, hcolumns]
  · have hfilter : BacktickFree (" and ".intercalate
        (k.columns.map fun c => d.renderIdentifier c ++ " is not null")) := by
      rw [backtickFree_intercalate (by decide)]
      refine List.forall_mem_map.2 fun column hcolumn => backtickFree_append.2 ⟨?_, by decide⟩
      exact Dialect.backtickFree_renderIdentifier hd (hk.columns column hcolumn)
    simp +decide [hname, htable, hcolumns, hfilter]

end UniqueKey

namespace Table

variable {t : Table} (ht : t.Portable)

include ht

theorem backtickFree_primaryKeyClause :
    ∀ text ∈ t.primaryKeyClause d, BacktickFree text := by
  rw [primaryKeyClause]
  split_ifs
  · simp
  · simp +decide [Dialect.backtickFree_renderIdentifiers hd ht.primaryKey]

theorem backtickFree_clauses (hkeys : ∀ k ∈ t.allUniqueKeys d, k.Portable) :
    ∀ text ∈ t.clauses d, BacktickFree text := by
  rw [clauses, List.forall_mem_append, List.forall_mem_append]
  refine ⟨⟨backtickFree_primaryKeyClause hd ht, ?_⟩, backtickFree_checkClauses d ht⟩
  rw [uniqueKeyClauses]
  split_ifs
  · exact List.forall_mem_map.2 fun k hk => UniqueKey.backtickFree_clause hd (hkeys k hk)
  · simp

theorem backtickFree_creation {definitions clauses : List String}
    (hdefinitions : ∀ text ∈ definitions, BacktickFree text)
    (hclauses : ∀ text ∈ clauses, BacktickFree text) :
    BacktickFree (t.creation d definitions clauses (t.inlineComment d)) := by
  have hjoined : BacktickFree (String.join (clauses.map (", " ++ ·))) := by
    rw [backtickFree_join]
    exact List.forall_mem_map.2 fun text h => backtickFree_append.2 ⟨by decide, hclauses text h⟩
  have hbody : BacktickFree (", ".intercalate definitions) :=
    (backtickFree_intercalate (by decide)).2 hdefinitions
  simp +decide only [creation, backtickFree_append, hd.config.createTable,
    Dialect.backtickFree_render hd ht.name, hbody, hjoined, backtickFree_inlineComment d ht,
    hd.config.tableType]

theorem backtickFree_commentStatements :
    ∀ text ∈ t.commentStatements d, BacktickFree text := by
  have hname := Dialect.backtickFree_render hd ht.name
  rw [commentStatements]
  split_ifs
  · rw [List.forall_mem_append]
    constructor
    · refine List.forall_mem_map.2 fun comment hcomment => ?_
      simp +decide [backtickFree_string, hname, ht.comment comment (Option.mem_toList.1 hcomment)]
    · simp only [List.mem_flatMap, forall_exists_index, and_imp]
      intro text c hmem htext
      obtain ⟨comment, hcomment, rfl⟩ := List.mem_map.1 htext
      have hc := ht.columns c hmem
      simp +decide [backtickFree_string, hname, Dialect.backtickFree_renderIdentifier hd hc.name,
        hc.comment comment (Option.mem_toList.1 hcomment)]
  · simp

omit hd in
theorem portable_allUniqueKeys (h : ∀ c ∈ t.columns, t.needsKey d c = true →
    BacktickFree t.name.name ∧ BacktickFree c.name) : ∀ k ∈ t.allUniqueKeys d, k.Portable := by
  intro k hk
  rcases List.mem_append.1 hk with hdeclared | hgenerated
  · exact ht.uniqueKeys k hdeclared
  · obtain ⟨c, hc, rfl⟩ := List.mem_map.1 hgenerated
    obtain ⟨hmem, hneeds⟩ := List.mem_filter.1 hc
    exact ⟨.inl (backtickFree_columnKey.2 (h c hmem hneeds)), ht.name,
      List.forall_mem_singleton.2 (ht.columns c hmem).name⟩

/-- Where all keys have portable names, every statement is free of backticks. -/
theorem backtickFree_of_portable_keys (hkeys : ∀ k ∈ t.allUniqueKeys d, k.Portable)
    {statements : List String} (created : t.create d = .ok statements) :
    ∀ text ∈ statements, BacktickFree text := by
  obtain ⟨definitions, texts, hdefinitions, htexts, rfl⟩ := create_eq_ok_iff.1 created
  rw [List.forall_mem_append, List.forall_mem_cons]
  refine ⟨⟨backtickFree_creation hd ht ?_ (backtickFree_clauses hd ht hkeys),
    backtickFree_commentStatements hd ht⟩, ?_⟩
  · intro text htext
    obtain ⟨c, hc, hdefinition⟩ := (mem_iff_of_mapM hdefinitions).1 htext
    exact Column.backtickFree_definition hd (ht.columns c hc) hdefinition
  · rw [uniqueKeyStatements] at htexts
    split_ifs at htexts
    · obtain rfl := Except.ok.inj htexts
      simp
    · intro text htext
      obtain ⟨k, hk, hcreate⟩ := (mem_iff_of_mapM htexts).1 htext
      exact UniqueKey.backtickFree_create hd (hkeys k hk) hcreate

end Table

end Statements

section Databases

theorem Config.hasNoBacktick_standard : Config.standard.HasNoBacktick := by
  constructor <;> decide

theorem Backend.hasNoBacktick_config (b : Backend) (hb : b ≠ .mysql) (v : Version) :
    (b.profile.config v).HasNoBacktick := by
  obtain ⟨hquote, hcreate, htype, hnull, hidentity, htrue, hfalse⟩ := Config.hasNoBacktick_standard
  cases b with
  | mysql => exact absurd rfl hb
  | standard => exact Config.hasNoBacktick_standard
  | postgresql =>
    exact ⟨hquote, hcreate, htype, hnull, hidentity, (by decide : BacktickFree "true"),
      (by decide : BacktickFree "false")⟩
  | oracle =>
    exact ⟨hquote, hcreate, htype, hnull, hidentity,
      backtickFree_ite (fun _ => by decide) fun _ => by decide,
      backtickFree_ite (fun _ => by decide) fun _ => by decide⟩
  | sqlserver =>
    exact ⟨(by decide : QuoteStyle.brackets.HasNoBacktick), hcreate, htype, hnull,
      (by decide : BacktickFree " identity not null"), htrue, hfalse⟩
  | sqlite =>
    exact ⟨hquote, hcreate, htype, hnull, (by decide : BacktickFree ""), htrue, hfalse⟩
  | duckdb =>
    exact ⟨hquote, hcreate, htype, hnull, hidentity, (by decide : BacktickFree "true"),
      (by decide : BacktickFree "false")⟩

/-- The change registers no pattern with a backtick. -/
def TypeNameTable.Change.HasNoBacktick (c : Change) : Prop :=
  ∀ n ∈ c.registration?, BacktickFree n.pattern

instance : DecidablePred TypeNameTable.Change.HasNoBacktick := fun _ =>
  inferInstanceAs (Decidable (∀ _ ∈ _, _))

theorem Backend.hasNoBacktick_typeNames (b : Backend) (v : Version) :
    ∀ c ∈ b.profile.typeNames v, c.HasNoBacktick := by
  have hfree : ∀ c ∈ typeNameChanges, c.HasNoBacktick := by decide +kernel
  exact fun c hc => hfree c (mem_typeNameChanges hc)

/-- No database but MySQL contributes a backtick. -/
theorem Backend.hasNoBacktick_dialect {b : Backend} (hb : b ≠ .mysql) (info : ResolutionInfo) :
    (b.dialect info).HasNoBacktick where
  config := b.hasNoBacktick_config hb info.version
  typeNames := by
    rw [dialect, Profile.typeNames_dialect]
    exact TypeNameTable.forall_registered_run (by decide +kernel)
      (b.hasNoBacktick_typeNames info.version)

end Databases

/-- A table with portable names is created without backticks exactly if no key over a single
column is named after a table or a column whose name is quoted. -/
theorem create_backtickFree_iff {d : Dialect} (hd : d.HasNoBacktick) {t : Table} (ht : t.Portable)
    {statements : List String} (created : t.create d = .ok statements) :
    (∀ text ∈ statements, BacktickFree text) ↔
      ∀ c ∈ t.columns, t.Requires c → d.uniqueKeys = .skipNullable → c.nullable = true →
        BacktickFree t.name.name ∧ BacktickFree c.name := by
  constructor
  · intro hfree c hmem required hstyle hnullable
    have hneeds : t.needsKey d c = true := Table.needsKey_iff.2 ⟨required, hstyle, hnullable⟩
    have hkey : t.columnKey c ∈ t.allUniqueKeys d :=
      List.mem_append_right _ (List.mem_map_of_mem (List.mem_filter.2 ⟨hmem, hneeds⟩))
    obtain ⟨definitions, texts, -, htexts, rfl⟩ := Table.create_eq_ok_iff.1 created
    -- The statement of the key of `c` is among the others, with the name as it is put together.
    rw [Table.uniqueKeyStatements, hstyle] at htexts
    obtain ⟨text, htext, hcreate⟩ := exists_of_mapM htexts hkey
    have htextFree : BacktickFree text := hfree text (List.mem_append_right _ htext)
    rcases UniqueKey.create_eq_ok_iff.1 hcreate with ⟨hother, -⟩ | -
    · exact absurd hstyle hother
    · rw [Table.renderIdentifier_columnKey] at htextFree
      simp only [backtickFree_append] at htextFree
      obtain ⟨⟨⟨⟨⟨⟨⟨-, hname⟩, -⟩, -⟩, -⟩, -⟩, -⟩, -⟩ := htextFree
      exact Table.backtickFree_columnKey.1 hname
  · intro h
    refine Table.backtickFree_of_portable_keys hd ht (Table.portable_allUniqueKeys ht ?_) created
    intro c hmem hneeds
    obtain ⟨required, hstyle, hnullable⟩ := Table.needsKey_iff.1 hneeds
    exact h c hmem required hstyle hnullable

/-- A quoted table of SQL Server with a quoted column that is unique and has no nulls. -/
theorem create_backtickFree_not_null :
    let d := Backend.sqlserver.dialect { version := ⟨16, 0⟩ }
    let note : Column :=
      { name := "\x60note\x60", code := .varchar, language := .string,
        size := { length := some 100 }, nullable := false, unique := true }
    let t : Table := { name := { name := "\x60order\x60" }, columns := [note] }
    let sql := "create table [order] ([note] varchar(100) not null unique)"
    d.HasNoBacktick ∧ t.Portable ∧ t.create d = .ok [sql] ∧ ∀ text ∈ [sql], BacktickFree text := by
  intro d note t sql
  have hd : d.HasNoBacktick := Backend.hasNoBacktick_dialect (by decide) _
  have hnote : note.Portable := ⟨by decide, nofun, nofun, nofun, nofun⟩
  have ht : t.Portable := ⟨List.forall_mem_singleton.2 (by decide),
    List.forall_mem_singleton.2 hnote, nofun, nofun, nofun, nofun⟩
  have created : t.create d = .ok [sql] := by decide +kernel
  refine ⟨hd, ht, created, (create_backtickFree_iff hd ht created).2 ?_⟩
  intro c hc required hstyle hnullable
  obtain rfl := List.mem_singleton.1 hc
  exact absurd hnullable (by decide)

/-- With nulls, the column has an index that is named after the table with its backticks. -/
theorem create_leaks_backtick :
    let d := Backend.sqlserver.dialect { version := ⟨16, 0⟩ }
    let note : Column :=
      { name := "note", code := .varchar, language := .string, size := { length := some 100 },
        unique := true }
    let t : Table := { name := { name := "\x60order\x60" }, columns := [note] }
    let index :=
      "create unique index uk_\x60order\x60_note on [order] (note) where note is not null"
    d.HasNoBacktick ∧ t.Portable ∧
      t.create d = .ok ["create table [order] (note varchar(100))", index] ∧
      ¬ BacktickFree index := by
  intro d note t index
  have hnote : note.Portable := ⟨by decide, nofun, nofun, nofun, nofun⟩
  have ht : t.Portable := ⟨List.forall_mem_singleton.2 (by decide),
    List.forall_mem_singleton.2 hnote, nofun, nofun, nofun, nofun⟩
  exact ⟨Backend.hasNoBacktick_dialect (by decide) _, ht, by decide +kernel, by decide⟩

end PortableSql
