import PortableSql.Backend
import PortableSql.Proofs.Schema.CreationText

/-! Uniqueness of columns. A new table makes every unique column outside its primary key
unique once, by a clause within the definition of the column or, where the style of the
dialect has no clause for it, by a key over just that column. The keys of a table, the
declared ones before those of single columns, are written once each, within the creation
of the table or as statements behind it. A column that is added later has its clause if
there is one, and no key. -/

namespace PortableSql

open Outcome

variable {d : Dialect} {t : Table} {c : Column}

namespace Column

/-- The definition of a column with a clause in the place where it is made unique. -/
def definitionWith (d : Dialect) (c : Column) (inPrimaryKey : Bool) (clause : String) :
    Except Failure String := do
  let body ← c.body d inPrimaryKey
  return d.renderIdentifier c.name ++ body ++ clause ++ c.checkClause d ++ c.commentClause d

/-- What stands in the definition of a column where it is made unique. -/
theorem uniqueClause_eq (d : Dialect) (c : Column) (inPrimaryKey : Bool) :
    c.uniqueClause d inPrimaryKey =
      if (c.unique = true ∧ inPrimaryKey = false) ∧
          ¬ (d.uniqueKeys = .skipNullable ∧ c.nullable = true) then " unique"
      else "" := by
  rw [uniqueClause, UniqueKeyStyle.columnClause?_eq]
  by_cases hrequired : c.unique = true ∧ inPrimaryKey = false
  · by_cases hlacks : d.uniqueKeys = .skipNullable ∧ c.nullable = true
    · simp [hrequired, hlacks]
    · simp [hrequired, hlacks]
  · rw [if_neg (by simpa using hrequired), if_neg fun h => hrequired h.1]

theorem definition_eq_definitionWith (inPrimaryKey : Bool) :
    c.definition d inPrimaryKey =
      c.definitionWith d inPrimaryKey (c.uniqueClause d inPrimaryKey) := rfl

/-- The text of a definition tells its clause. -/
theorem definitionWith_inj {inPrimaryKey : Bool} {x y text : String}
    (hx : c.definitionWith d inPrimaryKey x = .ok text)
    (hy : c.definitionWith d inPrimaryKey y = .ok text) : x = y := by
  simp only [definitionWith, bind_eq_ok_iff, return_eq_ok_iff] at hx hy
  obtain ⟨body, hbody, rfl⟩ := hx
  obtain ⟨body', hbody', heq⟩ := hy
  obtain rfl := Except.ok.inj (hbody.symm.trans hbody')
  simpa [String.append_assoc] using heq

end Column

namespace Table

/-- The column has to be made unique: it is not part of the primary key. -/
def Requires (t : Table) (c : Column) : Prop := c.unique = true ∧ c.name ∉ t.primaryKey

instance (t : Table) : DecidablePred t.Requires := fun _ => inferInstanceAs (Decidable (_ ∧ _))

/-- The style has no clause for the column. -/
theorem needsKey_iff :
    t.needsKey d c = true ↔ t.Requires c ∧ d.uniqueKeys = .skipNullable ∧ c.nullable = true := by
  simp [needsKey, isKeyColumn, Requires, UniqueKeyStyle.columnClause?_eq]

/-- Columns, their definitions and the keys of single columns, read side by side. A column that
has to be unique has the clause or a key, and any other column has neither. -/
inductive Covers (d : Dialect) (t : Table) : List Column → List String → List UniqueKey → Prop
  | nil : Covers d t [] [] []
  | exempt {c : Column} {definition : String} {columns definitions keys}
      (free : ¬ t.Requires c)
      (written : c.definitionWith d (decide (c.name ∈ t.primaryKey)) "" = .ok definition)
      (rest : Covers d t columns definitions keys) :
      Covers d t (c :: columns) (definition :: definitions) keys
  | clause {c : Column} {definition : String} {columns definitions keys}
      (required : t.Requires c) (has : ¬ (d.uniqueKeys = .skipNullable ∧ c.nullable = true))
      (written : c.definitionWith d false " unique" = .ok definition)
      (rest : Covers d t columns definitions keys) :
      Covers d t (c :: columns) (definition :: definitions) keys
  | key {c : Column} {definition : String} {columns definitions keys}
      (required : t.Requires c) (lacks : d.uniqueKeys = .skipNullable ∧ c.nullable = true)
      (written : c.definitionWith d false "" = .ok definition)
      (rest : Covers d t columns definitions keys) :
      Covers d t (c :: columns) (definition :: definitions)
        ({ name := "uk_" ++ t.name.name ++ "_" ++ c.name, table := t.name, columns := [c.name] } ::
          keys)

/-- The statements that create a table whose columns have given definitions, with a list of unique
keys: each one a clause of the creation, or each one a statement behind all others. -/
inductive Emits (d : Dialect) (t : Table) (definitions : List String) (keys : List UniqueKey) :
    List String → Prop
  | written {primary unique checks : List String} {behind : String} {comments texts : List String}
      (parts : t.Parts d keys primary unique checks) (remarked : t.Remarked d behind comments)
      (added : UniqueKey.AllAddedBy d keys texts) :
      Emits d t definitions keys
        (t.creation d definitions (primary ++ unique ++ checks) behind :: comments ++ texts)

theorem isKeyColumn_of_requires (h : t.Requires c) : t.isKeyColumn c = false := decide_eq_false h.2

theorem uniqueClause_isKeyColumn (d : Dialect) (t : Table) (c : Column) :
    c.uniqueClause d (t.isKeyColumn c) =
      if t.Requires c ∧ ¬ (d.uniqueKeys = .skipNullable ∧ c.nullable = true) then " unique"
      else "" := by
  rw [Column.uniqueClause_eq]
  exact if_congr (by simp [isKeyColumn, Requires]) rfl rfl

/-- The columns whose definitions lack a clause they need are the ones with keys. -/
theorem covers_iff {columns : List Column} {definitions : List String} {keys : List UniqueKey} :
    t.Covers d columns definitions keys ↔
      List.Forall₂ (fun c definition => c.definition d (t.isKeyColumn c) = .ok definition)
        columns definitions ∧
      keys = (columns.filter (t.needsKey d)).map t.columnKey := by
  simp only [Column.definition_eq_definitionWith, uniqueClause_isKeyColumn]
  constructor
  · intro h
    -- Each constructor decides the clause of its column and whether the filter keeps it.
    induction h with
    | nil => simp
    | exempt free written rest ih =>
      have hkey : ¬ t.needsKey d _ = true := fun hk => free (needsKey_iff.1 hk).1
      rw [List.filter_cons_of_neg hkey]
      exact ⟨.cons (by rwa [if_neg fun hc => free hc.1]) ih.1, ih.2⟩
    | clause required has written rest ih =>
      have hkey : ¬ t.needsKey d _ = true := fun hk => has (needsKey_iff.1 hk).2
      rw [List.filter_cons_of_neg hkey]
      refine ⟨.cons ?_ ih.1, ih.2⟩
      rwa [if_pos ⟨required, has⟩, isKeyColumn_of_requires required]
    | key required lacks written rest ih =>
      rw [List.filter_cons_of_pos (needsKey_iff.2 ⟨required, lacks⟩), List.map_cons, ih.2]
      refine ⟨.cons ?_ ih.1, rfl⟩
      rwa [if_neg fun hc => hc.2 lacks, isKeyColumn_of_requires required]
  · rintro ⟨h, rfl⟩
    -- Whether the column needs to be unique and lacks the clause decides the constructor.
    induction h with
    | nil => exact .nil
    | @cons c definition columns definitions written rest ih =>
      by_cases required : t.Requires c
      · rw [isKeyColumn_of_requires required] at written
        by_cases lacks : d.uniqueKeys = .skipNullable ∧ c.nullable = true
        · rw [if_neg fun hc => hc.2 lacks] at written
          rw [List.filter_cons_of_pos (needsKey_iff.2 ⟨required, lacks⟩)]
          exact .key required lacks written ih
        · rw [if_pos ⟨required, lacks⟩] at written
          rw [List.filter_cons_of_neg fun hk => lacks (needsKey_iff.1 hk).2]
          exact .clause required lacks written ih
      · rw [if_neg fun hc => required hc.1] at written
        rw [List.filter_cons_of_neg fun hk => required (needsKey_iff.1 hk).1]
        exact .exempt required written ih

theorem emits_iff {definitions : List String} {statements : List String} :
    t.Emits d definitions (t.allUniqueKeys d) statements ↔
      ∃ texts, t.uniqueKeyStatements d = .ok texts ∧
        statements = t.creation d definitions (t.clauses d) (t.inlineComment d) ::
          t.commentStatements d ++ texts := by
  simp only [uniqueKeyStatements_eq_ok_iff]
  constructor
  · rintro ⟨parts, remarked, added⟩
    obtain ⟨rfl, rfl, rfl⟩ := parts_iff.1 parts
    obtain ⟨rfl, rfl⟩ := remarked_iff.1 remarked
    exact ⟨_, added, rfl⟩
  · rintro ⟨texts, added, rfl⟩
    exact .written (parts_iff.2 ⟨rfl, rfl, rfl⟩) (remarked_iff.2 ⟨rfl, rfl⟩) added

end Table

/-- A table is created by exactly the statements in which every column that has to be unique is so
once, by a clause or by a key of its own, and every key of the table stands once: as a clause of
the creation, or as a statement behind the creation and the comments. What a clause and such a
statement read is part of this. -/
theorem create_emits_uniqueness_once (d : Dialect) (t : Table) (statements : List String) :
    t.create d = .ok statements ↔ ∃ definitions generated,
      t.Covers d t.columns definitions generated ∧
        t.Emits d definitions (t.uniqueKeys ++ generated) statements := by
  rw [Table.create_eq_ok_iff]
  simp only [Table.covers_iff, Table.definitions, mapM_eq_ok_iff]
  constructor
  · rintro ⟨definitions, texts, hdefinitions, htexts, rfl⟩
    exact ⟨definitions, _, ⟨hdefinitions, rfl⟩, Table.emits_iff.2 ⟨texts, htexts, rfl⟩⟩
  · rintro ⟨definitions, _, ⟨hdefinitions, rfl⟩, hemits⟩
    obtain ⟨texts, htexts, rfl⟩ := Table.emits_iff.1 hemits
    exact ⟨definitions, texts, hdefinitions, htexts, rfl⟩

/-- A table of SQL Server with a declared key over a unique column that may be null, which gets a
key of its own, and one that may not, which gets the clause. The unique column of the primary key
gets neither. -/
theorem create_emits_declared_and_generated :
    let d := Backend.sqlserver.dialect { version := ⟨16, 0⟩ }
    let id : Column :=
      { name := "id", code := .integer, language := .int, nullable := false, unique := true }
    let email : Column :=
      { name := "email", code := .varchar, language := .string, size := { length := some 100 },
        unique := true }
    let login : Column := { email with name := "login", nullable := false }
    let t : Table :=
      { name := { name := "account" }, columns := [id, email, login], primaryKey := ["id"],
        uniqueKeys := [⟨"uk_contact", { name := "account" }, ["login", "email"]⟩] }
    let statements :=
      ["create table account (id integer not null, email varchar(100), " ++
          "login varchar(100) not null unique, primary key (id))",
        "create unique index uk_contact on account (login, email) " ++
          "where login is not null and email is not null",
        "create unique index uk_account_email on account (email) where email is not null"]
    t.create d = .ok statements ∧ ∃ definitions generated,
      t.Covers d t.columns definitions generated ∧
        t.Emits d definitions (t.uniqueKeys ++ generated) statements := by
  intro d id email login t statements
  have created : t.create d = .ok statements := by decide +kernel
  exact ⟨created, (create_emits_uniqueness_once d t statements).1 created⟩

namespace Column

/-- The statement adds the column to a table, with a clause in the place where the definition
makes it unique. -/
def AddedWith (d : Dialect) (table : ObjectName) (c : Column) (clause sql : String) : Prop :=
  ∃ definition, c.definitionWith d false clause = .ok definition ∧
    sql = d.alterTable table ++ " " ++ d.config.ddl.addColumn ++ " " ++ definition ++
      d.config.ddl.addColumnSuffix

variable {table : ObjectName} {clause sql : String}

theorem AddedWith.inj {other : String} (h : c.AddedWith d table clause sql)
    (hother : c.AddedWith d table other sql) : clause = other := by
  obtain ⟨definition, hdefinition, rfl⟩ := h
  obtain ⟨definition', hdefinition', heq⟩ := hother
  simp only [String.append_assoc, String.append_right_inj, String.append_left_inj] at heq
  exact definitionWith_inj hdefinition (heq ▸ hdefinition')

theorem addTo_eq_ok_iff :
    c.addTo d table = .ok sql ↔
      d.can .hasAlterTable = true ∧ c.AddedWith d table (c.uniqueClause d false) sql := by
  rw [addTo, Dialect.demand_bind_eq_ok_iff]
  simp only [bind_eq_ok_iff, return_eq_ok_iff, AddedWith, definition_eq_definitionWith]

end Column

/-- A statement that adds a unique column makes it unique exactly if the style has a clause for
the column. Otherwise it is the statement for a column that need not be unique, though a new
table would have a key for the column. -/
theorem addTo_carries_unique_iff {table : ObjectName} {sql : String} (unique : c.unique = true)
    (added : c.addTo d table = .ok sql) :
    (c.AddedWith d table " unique" sql ↔
      ¬ (d.uniqueKeys = .skipNullable ∧ c.nullable = true)) ∧
    (d.uniqueKeys = .skipNullable → c.nullable = true →
      ({ c with unique := false } : Column).addTo d table = .ok sql ∧
        ∀ t : Table, c ∈ t.columns → c.name ∉ t.primaryKey →
          t.columnKey c ∈ t.allUniqueKeys d) := by
  obtain ⟨hcan, hadded⟩ := Column.addTo_eq_ok_iff.1 added
  rw [Column.uniqueClause_eq] at hadded
  refine ⟨⟨fun h hlacks => ?_, fun has => ?_⟩, fun hstyle hnullable => ⟨?_, fun t hmem hout => ?_⟩⟩
  · rw [if_neg fun hc => hc.2 hlacks] at hadded
    exact absurd (h.inj hadded) (by decide)
  · rwa [if_pos ⟨⟨unique, rfl⟩, has⟩] at hadded
  · rw [if_neg fun hc => hc.2 ⟨hstyle, hnullable⟩] at hadded
    exact Column.addTo_eq_ok_iff.2 ⟨hcan, hadded⟩
  · have hkey : t.needsKey d c = true := Table.needsKey_iff.2 ⟨⟨unique, hout⟩, hstyle, hnullable⟩
    exact List.mem_append_right _ (List.mem_map_of_mem (List.mem_filter.2 ⟨hmem, hkey⟩))

/-- Added to a table of SQL Server, a unique column without nulls has its clause. -/
theorem addTo_unique_not_null :
    let d := Backend.sqlserver.dialect { version := ⟨16, 0⟩ }
    let email : Column :=
      { name := "email", code := .varchar, language := .string, size := { length := some 100 },
        nullable := false, unique := true }
    let sql := "alter table account add email varchar(100) not null unique"
    email.unique = true ∧ email.addTo d { name := "account" } = .ok sql ∧
      email.AddedWith d { name := "account" } " unique" sql := by
  intro d email sql
  have hadded : email.addTo d { name := "account" } = .ok sql := by decide +kernel
  exact ⟨rfl, hadded, (addTo_carries_unique_iff rfl hadded).1.2 (by decide +kernel)⟩

/-- Added with nulls, the column is not made unique at all. -/
theorem addTo_forgets_unique_nullable :
    let d := Backend.sqlserver.dialect { version := ⟨16, 0⟩ }
    let email : Column :=
      { name := "email", code := .varchar, language := .string, size := { length := some 100 },
        unique := true }
    let sql := "alter table account add email varchar(100)"
    email.unique = true ∧ email.addTo d { name := "account" } = .ok sql ∧
      ¬ email.AddedWith d { name := "account" } " unique" sql := by
  intro d email sql
  have hadded : email.addTo d { name := "account" } = .ok sql := by decide +kernel
  have hclause : email.uniqueClause d false = "" := by decide +kernel
  refine ⟨rfl, hadded, fun h => ?_⟩
  have heq := h.inj (Column.addTo_eq_ok_iff.1 hadded).2
  rw [hclause] at heq
  exact absurd heq (by decide)

end PortableSql
