import PortableSql.Backend
import PortableSql.Proofs.ColumnType.BorrowedName
import PortableSql.Proofs.ColumnType.OpenPlace
import PortableSql.Proofs.ColumnType.Survivor

/-! Every column has a type name. The dimensions that a column is sure to have depend on
its type code alone: they are the natural ones, and supplied values only replace or add
to them. A table serves all columns when every code finds a name without a ceiling, its
own or that of its short form, and no name asks for a dimension that a column which may
take it lacks. Registering names of that kind keeps a table so, and all databases
register only such names, on top of standard ones that serve all columns. -/

namespace PortableSql

namespace TypeCode

instance : Fintype TypeCode := ⟨⟨all, by decide⟩, mem_all⟩

/-- A column of the code may take a name registered for another code. -/
def Borrows (code source : TypeCode) : Prop := code = source ∨ code.shortForm? = some source

instance (code source : TypeCode) : Decidable (code.Borrows source) :=
  inferInstanceAs (Decidable (_ ∨ _))

/-- The dimensions that every column of the code has, with their usual values. -/
def usualSize (code : TypeCode) : Size := SizeDefaults.standard.natural code code.defaultLanguage

end TypeCode

/-- What a look-up finds, it finds for the code or for its short form. -/
theorem Dialect.exists_of_lookUp {names : TypeCode → Option String} {code : TypeCode}
    {found : String} (h : lookUp names code = some found) :
    ∃ source, code.Borrows source ∧ names source = some found := by
  rcases lookUp_eq_some_iff.1 h with hown | ⟨-, short, hshort, hname⟩
  · exact ⟨code, .inl rfl, hown⟩
  · exact ⟨short, .inr hshort, hname⟩

namespace SizeDefaults

/-- Which dimensions are natural depends on the code only. -/
theorem supply_natural (d : SizeDefaults) (code : TypeCode) (language : LanguageType)
    (k : Dimension) : (d.natural code language).supply k = code.usualSize.supply k := by
  cases code <;> cases k <;> rfl

/-- No dimension of the usual size is missing from a resolved one. -/
theorem supply_resolve (d : SizeDefaults) (code : TypeCode) (language : LanguageType)
    (supplied : Size) (k : Dimension) :
    code.usualSize.supply k ≤ (d.resolve code language supplied).supply k := by
  have hor : ∀ given natural : Option Nat,
      natural.isSome.toNat ≤ (given <|> natural).isSome.toNat := by
    intro given natural
    cases given <;> cases natural <;> simp
  rw [← d.supply_natural code language k]
  cases k <;> exact hor _ _

theorem resolve_completes {code : TypeCode} {pattern : String}
    (h : code.usualSize.Completes pattern) (d : SizeDefaults) (language : LanguageType)
    (supplied : Size) : (d.resolve code language supplied).Completes pattern :=
  fun k => (h k).trans (d.supply_resolve code language supplied k)

end SizeDefaults

/-- Every column that may take the name has the dimensions it asks for. -/
def TypeName.Fits (n : TypeName) : Prop :=
  ∀ code : TypeCode, code.Borrows n.code → code.usualSize.Completes n.pattern

instance : DecidablePred TypeName.Fits := fun _ => inferInstanceAs (Decidable (∀ _, _))

namespace TypeNameTable

/-- Every column finds a name in the table, and one that its size completes. -/
structure Serves (t : TypeNameTable) : Prop where
  named : ∀ code : TypeCode, ∃ source, code.Borrows source ∧ (t.unbounded? source).isSome
  fits : ∀ n ∈ t.registered, n.Fits

instance : DecidablePred Serves := fun t =>
  decidable_of_iff ((∀ code : TypeCode, ∃ source, code.Borrows source ∧
      (t.unbounded? source).isSome) ∧ ∀ n ∈ t.registered, n.Fits)
    ⟨fun h => ⟨h.1, h.2⟩, fun h => ⟨h.named, h.fits⟩⟩

/-- The change registers a name that fits. -/
def Change.Fits (c : Change) : Prop := ∃ n ∈ c.registration?, n.Fits

instance : DecidablePred Change.Fits := fun _ => inferInstanceAs (Decidable (∃ _ ∈ _, _))

variable {t : TypeNameTable} {c : Change} {code : TypeCode} {size : Size}

theorem unbounded?_isSome_iff :
    (t.unbounded? code).isSome ↔ ∃ pattern, ⟨code, none, pattern⟩ ∈ t.registered := by
  cases h : t.unbounded? code with
  | none => simpa using unbounded?_eq_none h
  | some pattern => simpa using ⟨pattern, unbounded?_eq_some h⟩

/-- A name without a ceiling gives way only to another one. -/
theorem unbounded?_apply_isSome (hc : c.registration?.isSome) (h : (t.unbounded? code).isSome) :
    ((c.apply t).unbounded? code).isSome := by
  simp only [unbounded?_isSome_iff, mem_apply] at h ⊢
  obtain ⟨pattern, hmem⟩ := h
  by_cases hremoves : c.Removes ⟨code, none, pattern⟩
  · cases c with
    | register source new =>
      obtain ⟨rfl, -⟩ := hremoves
      exact ⟨new, .inl rfl⟩
    | registerUpTo source ceiling new => exact absurd hremoves.2 (by simp)
    | unregister source => simp [Change.registration?] at hc
  · exact ⟨pattern, .inr ⟨hmem, hremoves⟩⟩

theorem Serves.apply (h : t.Serves) (hc : c.Fits) : (c.apply t).Serves := by
  obtain ⟨new, hnew, hfits⟩ := hc
  refine ⟨fun code => ?_, fun n hn => ?_⟩
  · obtain ⟨source, hborrow, hsome⟩ := h.named code
    exact ⟨source, hborrow, unbounded?_apply_isSome (Option.isSome_of_mem hnew) hsome⟩
  · rcases mem_apply.1 hn with hreg | ⟨hmem, -⟩
    · rwa [Option.some.inj (hreg.symm.trans hnew)]
    · exact h.fits n hmem

theorem Serves.run (h : t.Serves) {changes : List Change} (hc : ∀ c ∈ changes, c.Fits) :
    (t.run changes).Serves := by
  induction changes generalizing t with
  | nil => exact h
  | cons c changes ih =>
    obtain ⟨hhead, hrest⟩ := List.forall_mem_cons.1 hc
    exact ih (h.apply hhead) hrest

/-- A pattern that answers a request is registered for the code. -/
theorem mem_of_pattern? {pattern : String} (h : t.pattern? code size = some pattern) :
    ∃ n ∈ t.registered, n.code = code ∧ n.pattern = pattern := by
  have hanswer := answer_pattern? t code size
  rw [h] at hanswer
  cases hanswer with
  | tightest hmem => exact ⟨_, hmem, rfl, rfl⟩
  | unbounded hmem => exact ⟨_, hmem, rfl, rfl⟩

theorem get?_isSome (h : (t.unbounded? code).isSome) (size : Size) :
    (t.get? code size).isSome := by
  simp only [get?, pattern?, Option.isSome_map, Option.orElse_eq_orElse, Option.orElse_eq_or,
    Option.isSome_or, h, Bool.or_true]

/-- Where all columns are served, a look-up finds a name at any size. -/
theorem Serves.lookUp_isSome (h : t.Serves) (code : TypeCode) (size : Size) :
    (Dialect.lookUp (t.get? · size) code).isSome := by
  obtain ⟨source, hborrow, hsome⟩ := h.named code
  have hget := get?_isSome hsome size
  rw [Dialect.lookUp_eq_or, Option.isSome_or, Bool.or_eq_true]
  rcases hborrow with rfl | hshort
  · exact .inl hget
  · exact .inr (by rw [hshort]; exact hget)

/-- A name that a look-up finds is a filled pattern of the code or of its short form. -/
theorem lookUp_eq_some {name : String}
    (h : Dialect.lookUp (t.get? · size) code = some name) :
    ∃ n ∈ t.registered, code.Borrows n.code ∧ name = size.fill n.pattern := by
  obtain ⟨source, hborrow, hget⟩ := Dialect.exists_of_lookUp h
  obtain ⟨pattern, hpattern, rfl⟩ := Option.map_eq_some_iff.1 hget
  obtain ⟨n, hmem, rfl, rfl⟩ := mem_of_pattern? hpattern
  exact ⟨n, hmem, hborrow, rfl⟩

end TypeNameTable

/-- In a dialect whose table serves all columns, every column has a type name. -/
theorem Dialect.exists_columnName (d : Dialect) (h : d.tables.typeNames.Serves) (code : TypeCode)
    (language : LanguageType) (supplied : Size) :
    ∃ name, d.resolveTypeName code (d.sizeFor code language supplied) = .ok name ∧
      hasOpenPlace name = false := by
  obtain ⟨name, hname⟩ := Option.isSome_iff_exists.1
    (h.lookUp_isSome code (d.sizeFor code language supplied))
  obtain ⟨n, hmem, hborrow, rfl⟩ := TypeNameTable.lookUp_eq_some hname
  refine ⟨_, by rw [resolveTypeName, hname], hasOpenPlace_fill.2 ?_⟩
  exact SizeDefaults.resolve_completes (h.fits n hmem code hborrow) _ _ _

/-- The change to the column type names, if it is one. -/
def Registrations.Change.typeName? : Change → Option TypeNameTable.Change
  | typeName change => some change
  | _ => none

theorem Registrations.typeNames_run (changes : List Change) (r : Registrations) :
    (r.run changes).typeNames = r.typeNames.run (changes.filterMap Change.typeName?) := by
  induction changes generalizing r with
  | nil => rfl
  | cons c changes ih =>
    rw [run_cons, ih]
    cases c <;> rfl

theorem Draft.typeNames_build (d : Draft) : d.build.tables.typeNames = d.tables.typeNames := by
  simp only [build]
  split
  · rfl
  · rw [Registrations.typeNames_run, List.filterMap_map]
    rfl

theorem Profile.typeNames_dialect (p : Profile) (info : ResolutionInfo) :
    (p.dialect info).tables.typeNames =
      TypeNameTable.standardColumns.run (p.typeNames info.version) := by
  have hchanges : (p.changes info.version).filterMap Registrations.Change.typeName? =
      p.typeNames info.version := by
    simp only [changes, List.filterMap_append, List.filterMap_map, Function.comp_def,
      Registrations.Change.typeName?]
    simp [Registrations.Change.typeName?]
  rw [dialect, Draft.typeNames_build]
  change ((Registrations.standard.run (p.changes info.version)).run _).typeNames = _
  rw [Registrations.typeNames_run, Registrations.typeNames_run, hchanges]
  rfl

theorem TypeNameTable.standardColumns_serves : standardColumns.Serves := by decide +kernel

/-- All names that some version of some database registers. -/
def Backend.typeNameChanges : List TypeNameTable.Change :=
  Postgresql.typeNames ++ Mysql.typeNames ++ Oracle.typeNames {} ++ SqlServer.typeNames ++
    Sqlite.typeNames ++ Duckdb.typeNames

/-- Later versions of Oracle register less. -/
theorem Oracle.typeNames_subset (v : Version) : typeNames v ⊆ typeNames {} := by
  intro c hc
  rw [typeNames, List.mem_append] at hc ⊢
  refine hc.imp_right fun hc => ?_
  split at hc
  · exact absurd hc List.not_mem_nil
  · exact hc

theorem Backend.mem_typeNameChanges {b : Backend} {v : Version} {c : TypeNameTable.Change}
    (h : c ∈ b.profile.typeNames v) : c ∈ typeNameChanges := by
  simp only [typeNameChanges, List.mem_append]
  cases b with
  | standard => exact absurd h List.not_mem_nil
  | postgresql => exact .inl (.inl (.inl (.inl (.inl h))))
  | mysql => exact .inl (.inl (.inl (.inl (.inr h))))
  | oracle => exact .inl (.inl (.inl (.inr (Oracle.typeNames_subset v h))))
  | sqlserver => exact .inl (.inl (.inr h))
  | sqlite => exact .inl (.inr h)
  | duckdb => exact .inr h

/-- What holds of the standard names and of all that databases register holds in every dialect. -/
theorem Backend.forall_typeNames {P : TypeName → Prop}
    (hstandard : ∀ n ∈ TypeNameTable.standardColumns.registered, P n)
    (hchanges : ∀ c ∈ typeNameChanges, ∀ n ∈ c.registration?, P n) (b : Backend)
    (info : ResolutionInfo) : ∀ n ∈ (b.dialect info).tables.typeNames.registered, P n := by
  rw [dialect, Profile.typeNames_dialect]
  exact TypeNameTable.forall_registered_run hstandard fun c hc =>
    hchanges c (mem_typeNameChanges hc)

/-- All names that databases register fit. -/
theorem Backend.typeNames_fit (b : Backend) (v : Version) :
    ∀ c ∈ b.profile.typeNames v, c.Fits := by
  have hfit : ∀ c ∈ typeNameChanges, c.Fits := by decide +kernel
  exact fun c hc => hfit c (mem_typeNameChanges hc)

theorem Backend.typeNames_serve (b : Backend) (info : ResolutionInfo) :
    (b.dialect info).tables.typeNames.Serves := by
  rw [dialect, Profile.typeNames_dialect]
  exact TypeNameTable.standardColumns_serves.run (b.typeNames_fit info.version)

/-- A schema definition for any database can name the type of any column, and the name is the
one that is resolved, with no place left open. -/
theorem ddlTypeName_sizeFor (b : Backend) (info : ResolutionInfo) (code : TypeCode)
    (language : LanguageType) (supplied : Size) :
    let d := b.dialect info
    let size := d.sizeFor code language supplied
    ∃ name, d.ddlTypeName code size = .ok name ∧ d.resolveTypeName code size = .ok name ∧
      ∀ c ∈ ['l', 'p', 's'], ¬ ['$', c] <:+: name.toList := by
  intro d size
  obtain ⟨name, hname, hclosed⟩ :=
    d.exists_columnName (b.typeNames_serve info) code language supplied
  refine ⟨name, ?_, hname, ?_⟩
  · rw [Dialect.ddlTypeName, hname]
    simp [bind, Except.bind, hclosed]
  · have hplace := place_not_infix hclosed
    simp only [List.forall_mem_cons, List.not_mem_nil, false_imp_iff, implies_true, and_true]
    exact ⟨hplace .length, hplace .precision, hplace .scale⟩

end PortableSql
