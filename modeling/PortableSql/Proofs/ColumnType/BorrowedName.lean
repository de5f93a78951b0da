import PortableSql.Dialect.TypeNaming
import PortableSql.Proofs.ColumnType.NameTable

/-! Names of a code's own and borrowed ones. Asking for the name of a code ends in one of three
ways: the code has a name, or else its short form has one, or else the request is refused, and the
refusal tells what was asked for and not where the search ended. Type names at a size are found
in this way, and so are bare names. At no size they are the same names: without a capacity no
ceiling suffices, and without dimensions a pattern stands for itself. -/

namespace PortableSql

namespace Dialect

variable {names : TypeCode → Option String} {code : TypeCode} {found name pattern : String}
  {d : Dialect} {size : Size}

theorem lookUp_of_shortForm?_eq_none (h : code.shortForm? = none) :
    lookUp names code = names code := by
  rw [lookUp]
  split
  next hname => exact hname.symm
  next hshort => exact absurd (h.symm.trans hshort) (by simp)
  next hname hshort => exact hname.symm

/-- A borrowed name is one step away, as no short form has one of its own. -/
theorem lookUp_eq_or (names : TypeCode → Option String) (code : TypeCode) :
    lookUp names code = (names code).or (code.shortForm?.bind names) := by
  rw [lookUp]
  split
  next hname => rw [hname, Option.some_or]
  next hname hshort =>
    rw [hname, hshort, Option.none_or, Option.bind_some,
      lookUp_of_shortForm?_eq_none (TypeCode.shortForm?_shortForm? hshort)]
  next hname hshort => rw [hname, hshort, Option.none_or, Option.bind_none]

theorem lookUp_eq_some_iff :
    lookUp names code = some found ↔
      names code = some found ∨
        names code = none ∧ ∃ short, code.shortForm? = some short ∧ names short = some found := by
  rw [lookUp_eq_or, Option.or_eq_some_iff, Option.bind_eq_some_iff]

theorem lookUp_eq_none_iff :
    lookUp names code = none ↔
      names code = none ∧ ∀ short, code.shortForm? = some short → names short = none := by
  rw [lookUp_eq_or, Option.or_eq_none_iff, Option.bind_eq_none_iff]

theorem lookUp_map (f : String → String) :
    lookUp (fun source => (names source).map f) code = (lookUp names code).map f := by
  rw [lookUp_eq_or, lookUp_eq_or]
  cases names code with
  | some name => rfl
  | none => cases code.shortForm? <;> rfl

/-- The pattern that names a type at a size: its own or that of its short form. -/
def typePattern? (d : Dialect) (code : TypeCode) (size : Size) : Option String :=
  lookUp (d.tables.typeNames.pattern? · size) code

theorem lookUp_get? (d : Dialect) (code : TypeCode) (size : Size) :
    lookUp (d.tables.typeNames.get? · size) code = (d.typePattern? code size).map size.fill :=
  lookUp_map size.fill

theorem resolveTypeName_of_typePattern? (h : d.typePattern? code size = some pattern) :
    d.resolveTypeName code size = .ok (size.fill pattern) := by
  rw [resolveTypeName, lookUp_get?, h]
  rfl

end Dialect

/-- How asking for the name of a code ends when names are looked up code by code. -/
inductive Named (names : TypeCode → Option String) (code : TypeCode) (length : Option Nat) :
    Except Failure String → Prop
  | own {name : String} (h : names code = some name) : Named names code length (.ok name)
  | borrowed {short : TypeCode} {name : String} (hown : names code = none)
      (hshort : code.shortForm? = some short) (h : names short = some name) :
      Named names code length (.ok name)
  | refused (hown : names code = none)
      (hshort : ∀ short, code.shortForm? = some short → names short = none) :
      Named names code length (.error (.noMapping code length))

section Named

variable {names : TypeCode → Option String} {code : TypeCode} {length : Option Nat}
  {outcome : Except Failure String}

theorem named_iff_lookUp :
    Named names code length outcome ↔
      (∃ name, Dialect.lookUp names code = some name ∧ outcome = .ok name) ∨
        Dialect.lookUp names code = none ∧ outcome = .error (.noMapping code length) := by
  constructor
  · intro h
    cases h with
    | own h => exact .inl ⟨_, Dialect.lookUp_eq_some_iff.2 (.inl h), rfl⟩
    | borrowed hown hshort h =>
      exact .inl ⟨_, Dialect.lookUp_eq_some_iff.2 (.inr ⟨hown, _, hshort, h⟩), rfl⟩
    | refused hown hshort => exact .inr ⟨Dialect.lookUp_eq_none_iff.2 ⟨hown, hshort⟩, rfl⟩
  · rintro (⟨name, h, rfl⟩ | ⟨h, rfl⟩)
    · rcases Dialect.lookUp_eq_some_iff.1 h with hown | ⟨hown, short, hshort, hname⟩
      · exact .own hown
      · exact .borrowed hown hshort hname
    · obtain ⟨hown, hshort⟩ := Dialect.lookUp_eq_none_iff.1 h
      exact .refused hown hshort

/-- A name that a request ends with is the name of some code. -/
theorem Named.exists_eq_some {name : String} (h : Named names code length (.ok name)) :
    ∃ source, names source = some name := by
  cases h with
  | own h => exact ⟨code, h⟩
  | borrowed _ _ h => exact ⟨_, h⟩

end Named

namespace Dialect

theorem resolveTypeName_eq_iff_named (d : Dialect) (code : TypeCode) (size : Size)
    (outcome : Except Failure String) :
    d.resolveTypeName code size = outcome ↔
      Named (d.tables.typeNames.get? · size) code size.length outcome := by
  rw [named_iff_lookUp, resolveTypeName]
  cases lookUp (d.tables.typeNames.get? · size) code <;> simp [eq_comm]

theorem bareTypeName_eq_iff_named (d : Dialect) (code : TypeCode)
    (outcome : Except Failure String) :
    d.bareTypeName code = outcome ↔
      Named (fun source => (d.tables.typeNames.unbounded? source).map PortableSql.bareTypeName)
        code none outcome := by
  rw [named_iff_lookUp, lookUp_map, bareTypeName]
  cases lookUp d.tables.typeNames.unbounded? code <;> simp [eq_comm]

end Dialect

/-- Without dimensions a pattern stands for itself. -/
theorem Size.fill_nothing (pattern : String) : ({} : Size).fill pattern = pattern :=
  String.ofList_toList

namespace TypeNameTable

theorem get?_nothing (t : TypeNameTable) (code : TypeCode) :
    t.get? code {} = t.unbounded? code := by
  have hpattern : t.pattern? code {} = t.unbounded? code := rfl
  rw [get?, hpattern, show ({} : Size).fill = id from funext Size.fill_nothing, Option.map_id_fun]
  rfl

/-- The bare name of a registered pattern counts as registered. -/
theorem containsName_bareTypeName {t : TypeNameTable} {code : TypeCode} {ceiling : Option Nat}
    {pattern : String} (h : ⟨code, ceiling, pattern⟩ ∈ t.registered) :
    t.containsName (bareTypeName pattern) = true := by
  rw [containsName, List.any_eq_true]
  exact ⟨_, h, by simp⟩

end TypeNameTable

/-- A code goes by its own name or else by that of its short form, at every size and without its
size alike. A bare name is the name at no size up to its parenthesis, with the same refusal if
there is none, and it counts as registered. -/
theorem type_names_own_or_borrowed (d : Dialect) (code : TypeCode) (size : Size) :
    (∀ outcome, d.resolveTypeName code size = outcome ↔
      Named (d.tables.typeNames.get? · size) code size.length outcome) ∧
    (∀ outcome, d.bareTypeName code = outcome ↔
      Named (fun source => (d.tables.typeNames.unbounded? source).map bareTypeName) code none
        outcome) ∧
    d.bareTypeName code = (d.resolveTypeName code {}).map bareTypeName ∧
    ∀ name, d.bareTypeName code = .ok name → d.isTypeNameRegistered name = true := by
  refine ⟨d.resolveTypeName_eq_iff_named code size, d.bareTypeName_eq_iff_named code, ?_, ?_⟩
  · rw [Dialect.bareTypeName, Dialect.resolveTypeName]
    simp only [TypeNameTable.get?_nothing]
    cases Dialect.lookUp d.tables.typeNames.unbounded? code <;> rfl
  · intro name hname
    obtain ⟨source, hsource⟩ := ((d.bareTypeName_eq_iff_named code _).1 hname).exists_eq_some
    obtain ⟨pattern, hpattern, rfl⟩ := Option.map_eq_some_iff.1 hsource
    exact TypeNameTable.containsName_bareTypeName (TypeNameTable.unbounded?_eq_some hpattern)

/-- A long code with names up to ceilings only borrows its bare name, here one that is nothing but
a parenthesis. -/
theorem parenthesized_name_borrowed :
    let d := ((Draft.blank .standard).register
      [.typeName (.registerUpTo .longVarchar 100 "long varchar($l)"),
        .typeName (.register .varchar "(text)")]).build
    d.bareTypeName .longVarchar = .ok "(text)" ∧ d.isTypeNameRegistered "(text)" = true := by
  intro d
  have hname : d.bareTypeName .longVarchar = .ok "(text)" :=
    (d.bareTypeName_eq_iff_named .longVarchar _).2 (.borrowed rfl rfl rfl)
  exact ⟨hname, (type_names_own_or_borrowed d .longVarchar {}).2.2.2 "(text)" hname⟩

end PortableSql
