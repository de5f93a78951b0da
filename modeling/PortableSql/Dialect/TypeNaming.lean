import PortableSql.Dialect.Basic

/-! The type names of a dialect: for columns at a size, for schema definitions, which
tolerate no open place, for the targets of casts, and for results. A long type that
has no name of its own borrows that of its short form. -/

namespace PortableSql.Dialect

/-- The size of a column from what was supplied. -/
def sizeFor (d : Dialect) (code : TypeCode) (language : LanguageType) (supplied : Size) : Size :=
  d.config.sizes.resolve code language supplied

/-- The name of a code from a look-up, or the borrowed one. -/
def lookUp (names : TypeCode → Option String) (code : TypeCode) : Option String :=
  match names code, _ : code.shortForm? with
  | some name, _ => some name
  | none, some short => lookUp names short
  | none, none => none
termination_by code.shortForm?.isSome.toNat
decreasing_by
  rename_i hshort
  simp [hshort, TypeCode.shortForm?_shortForm? hshort]

/-- The column type name for a code at a size. -/
def resolveTypeName (d : Dialect) (code : TypeCode) (size : Size) : Except Failure String :=
  match lookUp (d.tables.typeNames.get? · size) code with
  | some name => .ok name
  | none => .error (.noMapping code size.length)

/-- Borrowing is reported, whether it succeeds or not. -/
def borrowingEvents (d : Dialect) (code : TypeCode) (size : Size) : List Event :=
  match d.tables.typeNames.get? code size, _ : code.shortForm? with
  | none, some short =>
    ⟨.trace, "Falling back to short type mapping",
      [.plain "from" code.name, .plain "to" short.name]⟩ :: d.borrowingEvents short size
  | _, _ => []
termination_by code.shortForm?.isSome.toNat
decreasing_by
  rename_i hshort
  simp [hshort, TypeCode.shortForm?_shortForm? hshort]

/-- The column type name for a schema definition, which has no open place. -/
def ddlTypeName (d : Dialect) (code : TypeCode) (size : Size) : Except Failure String := do
  let name ← d.resolveTypeName code size
  if hasOpenPlace name then .error (.unresolvedPlaceholder code name) else .ok name

/-- The size of a column about which nothing but its code is known. -/
def defaultSize (d : Dialect) (code : TypeCode) : Size :=
  d.sizeFor code code.defaultLanguage {}

/-- The column type name at the default size. -/
def defaultTypeName (d : Dialect) (code : TypeCode) : Except Failure String :=
  d.resolveTypeName code (d.defaultSize code)

/-- The bare name of the pattern without a ceiling. -/
def bareTypeName (d : Dialect) (code : TypeCode) : Except Failure String :=
  match lookUp d.tables.typeNames.unbounded? code with
  | some pattern => .ok (PortableSql.bareTypeName pattern)
  | none => .error (.noMapping code none)

def isTypeNameRegistered (d : Dialect) (name : String) : Bool :=
  d.tables.typeNames.containsName name

/-- The size of a cast's target. Without length and precision it is the size of a column;
otherwise it is as given, save that an exact numeric with a precision has a scale. -/
def castSize (d : Dialect) (code : TypeCode) (language : LanguageType) (given : Size) : Size :=
  if given.length = none ∧ given.precision = none then
    d.sizeFor code language { scale := given.scale }
  else if code.isExactNumeric ∧ given.precision.isSome then
    { given with scale := given.scale <|> some (d.config.sizes.scaleOf language) }
  else given

def castTypeName (d : Dialect) (code : TypeCode) (language : LanguageType) (given : Size) :
    Except Failure String :=
  d.resolveTypeName code (d.castSize code language given)

/-- The language type name of a result column. -/
def resultTypeName (d : Dialect) (code : TypeCode) (size : Size) : Except Failure String :=
  match d.tables.resultTypeNames.get? code size with
  | some name => .ok name
  | none => .error (.noMapping code size.length)

end PortableSql.Dialect
