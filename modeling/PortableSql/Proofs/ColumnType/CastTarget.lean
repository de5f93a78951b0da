import PortableSql.Proofs.ColumnType.ColumnName

/-! The targets of casts. A cast that is given neither length nor precision takes a size as a
column does, so its target has no open place. Otherwise it takes what is given, and of the
dimensions that are missing only the scale of an exact numeric is supplied. So a target is left
open when just one of length and precision is given and its name asks for the other one: a
scale is asked for by exact numerics alone, and only beside a precision. -/

namespace PortableSql

/-- A name for exact numerics asks for a scale only if it asks for a precision. -/
def TypeName.ScalesPrecision (n : TypeName) : Prop :=
  n.code.isExactNumeric = true →
    scalePlace.count n.pattern.toList ≤ precisionPlace.count n.pattern.toList

instance : DecidablePred TypeName.ScalesPrecision := fun n =>
  inferInstanceAs (Decidable (n.code.isExactNumeric = true → _))

namespace Dialect

variable {d : Dialect} {code : TypeCode} {size : Size} {pattern : String}

theorem typePattern?_isSome (h : d.tables.typeNames.Serves) (code : TypeCode) (size : Size) :
    (d.typePattern? code size).isSome := by
  have hname := h.lookUp_isSome code size
  rwa [lookUp_get?, Option.isSome_map] at hname

theorem mem_of_typePattern? (h : d.typePattern? code size = some pattern) :
    ∃ n ∈ d.tables.typeNames.registered, code.Borrows n.code ∧ n.pattern = pattern := by
  obtain ⟨source, hborrows, hpattern⟩ := exists_of_lookUp h
  obtain ⟨n, hmem, rfl, rfl⟩ := TypeNameTable.mem_of_pattern? hpattern
  exact ⟨n, hmem, hborrows, rfl⟩

end Dialect

/-- Of length and precision just one is given, and the pattern asks for the other. -/
def Size.MissesOther (given : Size) (pattern : String) : Prop :=
  (given.length = none ∧ given.precision ≠ none ∧ lengthPlace.toList <:+: pattern.toList) ∨
    given.precision = none ∧ given.length ≠ none ∧ precisionPlace.toList <:+: pattern.toList

/-- Exact numerics borrow no names. -/
theorem TypeCode.Borrows.isExactNumeric {code source : TypeCode} (h : code.Borrows source)
    (hexact : code.isExactNumeric = true) : source.isExactNumeric = true := by
  rcases h with rfl | hshort
  · exact hexact
  · cases code <;> simp [shortForm?, TypeCode.isExactNumeric] at hshort hexact

namespace Size

variable {code : TypeCode} {size : Size} {pattern : String}

/-- A size that fills the places for length and precision fills those for the scale too, if it
has a scale beside the precision of an exact numeric. -/
theorem completes_iff_of_usual (hfits : code.usualSize.Completes pattern)
    (hscales : code.isExactNumeric = true →
      scalePlace.count pattern.toList ≤ precisionPlace.count pattern.toList)
    (hscale : code.isExactNumeric = true → size.supply .precision ≤ size.supply .scale) :
    size.Completes pattern ↔
      lengthPlace.count pattern.toList ≤ size.supply .length ∧
        precisionPlace.count pattern.toList ≤ size.supply .precision := by
  constructor
  · exact fun h => ⟨h .length, h .precision⟩
  · rintro ⟨hlength, hprecision⟩ k
    cases k with
    | length => exact hlength
    | precision => exact hprecision
    | scale =>
      change scalePlace.count pattern.toList ≤ size.supply .scale
      by_cases hexact : code.isExactNumeric = true
      · exact ((hscales hexact).trans hprecision).trans (hscale hexact)
      · have hnone : code.usualSize.supply .scale = 0 := by
          cases code <;> first | rfl | exact absurd rfl hexact
        exact (hfits .scale).trans (hnone ▸ Nat.zero_le _)

end Size

namespace Dialect

variable {d : Dialect} {code : TypeCode} {given : Size} {pattern : String}

/-- With a length or a precision a cast takes what is given, and a precision of an exact numeric
brings a scale with it. -/
theorem castSize_of_given (d : Dialect) (code : TypeCode) (language : LanguageType)
    (h : ¬ (given.length = none ∧ given.precision = none)) :
    let size := d.castSize code language given
    size.length = given.length ∧ size.precision = given.precision ∧
      (code.isExactNumeric = true → size.supply .precision ≤ size.supply .scale) := by
  intro size
  by_cases hscaled : code.isExactNumeric = true ∧ given.precision.isSome = true
  · have hsize : size = { given with
        scale := given.scale <|> some (d.config.sizes.scaleOf language) } :=
      (if_neg h).trans (if_pos hscaled)
    rw [hsize]
    refine ⟨rfl, rfl, fun _ => (Size.supply_le_one _ .precision).trans ?_⟩
    cases given.scale <;> exact Nat.le_refl 1
  · have hsize : size = given := (if_neg h).trans (if_neg hscaled)
    rw [hsize]
    refine ⟨rfl, rfl, fun hexact => ?_⟩
    have hnone : given.supply .precision = 0 := by
      rw [Size.supply, Bool.toNat_eq_zero, ← Bool.not_eq_true]
      exact fun hsome => hscaled ⟨hexact, hsome⟩
    exact hnone ▸ Nat.zero_le _

/-- The size of a cast fills every place of a name unless what is given misses the other. -/
theorem castSize_completes_iff (d : Dialect) (language : LanguageType) (given : Size)
    (hfits : code.usualSize.Completes pattern)
    (hscales : code.isExactNumeric = true →
      scalePlace.count pattern.toList ≤ precisionPlace.count pattern.toList) :
    (d.castSize code language given).Completes pattern ↔ ¬ given.MissesOther pattern := by
  by_cases hnothing : given.length = none ∧ given.precision = none
  · have hsize : d.castSize code language given =
        d.sizeFor code language { scale := given.scale } := if_pos hnothing
    have hcompletes : (d.castSize code language given).Completes pattern :=
      hsize ▸ SizeDefaults.resolve_completes hfits _ _ _
    refine iff_of_true hcompletes ?_
    rintro (⟨-, hgiven, -⟩ | ⟨-, hgiven, -⟩)
    · exact hgiven hnothing.2
    · exact hgiven hnothing.1
  · obtain ⟨hlength, hprecision, hscale⟩ := d.castSize_of_given code language hnothing
    rw [Size.completes_iff_of_usual hfits hscales hscale, Size.supply, Size.supply, Size.get?,
      Size.get?, hlength, hprecision]
    have hasked : lengthPlace.count pattern.toList ≤ 1 ∧ precisionPlace.count pattern.toList ≤ 1 :=
      ⟨(hfits .length).trans (Size.supply_le_one _ _),
        (hfits .precision).trans (Size.supply_le_one _ _)⟩
    rw [Size.MissesOther, Text.Digraph.isInfix_iff_count, Text.Digraph.isInfix_iff_count]
    cases hl : given.length <;> cases hp : given.precision
    · exact absurd ⟨hl, hp⟩ hnothing
    · simp [hasked]
    · simp [hasked]
    · simp [hasked]

/-- Where all columns are served, every cast has a target. -/
theorem exists_castTypeName (h : d.tables.typeNames.Serves)
    (hscales : ∀ n ∈ d.tables.typeNames.registered, n.ScalesPrecision) (code : TypeCode)
    (language : LanguageType) (given : Size) :
    let size := d.castSize code language given
    ∃ pattern, d.typePattern? code size = some pattern ∧
      d.castTypeName code language given = .ok (size.fill pattern) ∧
      (hasOpenPlace (size.fill pattern) = true ↔ given.MissesOther pattern) := by
  intro size
  obtain ⟨pattern, hpattern⟩ := Option.isSome_iff_exists.1 (typePattern?_isSome h code size)
  obtain ⟨n, hmem, hborrows, rfl⟩ := mem_of_typePattern? hpattern
  have hcompletes := d.castSize_completes_iff language given (h.fits n hmem code hborrows)
    fun hexact => hscales n hmem (hborrows.isExactNumeric hexact)
  refine ⟨n.pattern, hpattern, resolveTypeName_of_typePattern? hpattern, ?_⟩
  rw [← Bool.not_eq_false, hasOpenPlace_fill, hcompletes, not_not]

end Dialect

theorem Backend.typeNames_scalePrecision (b : Backend) (info : ResolutionInfo) :
    ∀ n ∈ (b.dialect info).tables.typeNames.registered, n.ScalesPrecision :=
  forall_typeNames (by decide +kernel) (by decide +kernel) b info

/-- A cast to any type has a target in every database. The target has an open place exactly if
just one of length and precision is given and the name of the type asks for the other one. -/
theorem castTypeName_open_iff (b : Backend) (info : ResolutionInfo) (code : TypeCode)
    (language : LanguageType) (given : Size) :
    let d := b.dialect info
    let size := d.castSize code language given
    ∃ pattern, d.typePattern? code size = some pattern ∧
      d.castTypeName code language given = .ok (size.fill pattern) ∧
      ((∃ c ∈ ['l', 'p', 's'], ['$', c] <:+: (size.fill pattern).toList) ↔
        given.MissesOther pattern) := by
  intro d size
  obtain ⟨pattern, hpattern, hname, hopen⟩ := d.exists_castTypeName (b.typeNames_serve info)
    (b.typeNames_scalePrecision info) code language given
  rw [hasOpenPlace_iff_exists] at hopen
  exact ⟨pattern, hpattern, hname, hopen⟩

/-- A cast to a decimal of which nothing but a length is known has two open places. -/
theorem decimal_of_length_stays_open :
    let d := Backend.postgresql.dialect { version := ⟨16, 0⟩ }
    let given : Size := { length := some 255 }
    d.castTypeName .decimal .bigDecimal given = .ok "decimal($p,$s)" ∧
      ['$', 'p'] <:+: "decimal($p,$s)".toList ∧ ['$', 's'] <:+: "decimal($p,$s)".toList := by
  intro d given
  exact ⟨by decide +kernel, by decide, by decide⟩

end PortableSql
