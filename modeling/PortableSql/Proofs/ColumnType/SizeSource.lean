import Mathlib.Data.Option.Basic
import PortableSql.ColumnType.Size
import PortableSql.Proofs.ColumnType.OpenPlace

/-! Where the dimensions of a column come from. What is supplied is kept, with two exceptions. A
floating type that is given a precision and a scale counts decimal digits, so the precision is
converted and the scale dropped. The general default length yields to the length of the content
for bits of booleans, for fixed strings of characters and identifiers, and for varying and binary
strings of identifiers. What is not supplied is a default of the family of the type, or stays
open. For other contents of one length, such as a boolean in a fixed string, the general default
length stands, and a column that is given it differs from one that is given no length. -/

namespace PortableSql

namespace TypeCode

/-- The types whose length is by default that of their content. -/
def sizedByContent : List TypeCode := [bit, char, nchar, varchar, nvarchar, binary, varbinary]

def largeObjects : List TypeCode := [clob, nclob, blob]

def longForms : List TypeCode := [longVarchar, longNvarchar, longVarbinary]

def floatingPoint : List TypeCode := [float, real, double]

/-- The types with fractions of a second. -/
def subsecond : List TypeCode := [timestamp, timestampWithTimezone, timeWithTimezone]

def exactNumerics : List TypeCode := [numeric, decimal]

theorem isFloating_iff {code : TypeCode} : code.isFloating = true ↔ code ∈ floatingPoint := by
  cases code <;> decide

end TypeCode

open TypeCode

/-- The contents of one length. -/
def LanguageType.ofFixedLength : List LanguageType := [.boolean, .character, .uuid]

/-- The general default length yields to the length of the content. -/
def DefaultLengthYields (code : TypeCode) (language : LanguageType) : Prop :=
  (code = .bit ∧ language = .boolean) ∨
    (code ∈ [.char, .nchar] ∧ language ∈ [.character, .uuid]) ∨
    code ∈ [.varchar, .nvarchar, .binary, .varbinary] ∧ language = .uuid

instance (code : TypeCode) (language : LanguageType) :
    Decidable (DefaultLengthYields code language) :=
  inferInstanceAs (Decidable (_ ∨ _))

theorem ignoresDefaultLength_iff {code : TypeCode} {language : LanguageType} :
    ignoresDefaultLength code language = true ↔ DefaultLengthYields code language := by
  cases code <;> cases language <;> decide

theorem DefaultLengthYields.mem_sizedByContent {code : TypeCode} {language : LanguageType}
    (h : DefaultLengthYields code language) : code ∈ sizedByContent := by
  rcases h with ⟨rfl, -⟩ | ⟨h, -⟩ | ⟨h, -⟩
  · decide
  · exact (by decide : ∀ c ∈ [char, nchar], c ∈ sizedByContent) code h
  · exact (by decide : ∀ c ∈ [varchar, nvarchar, binary, varbinary], c ∈ sizedByContent) code h

/-- The precision of a floating type that comes with a scale counts decimal digits. -/
def Size.CountsDecimals (supplied : Size) (code : TypeCode) : Prop :=
  code ∈ floatingPoint ∧ supplied.precision ≠ none ∧ supplied.scale ≠ none

instance (supplied : Size) (code : TypeCode) : Decidable (supplied.CountsDecimals code) :=
  inferInstanceAs (Decidable (_ ∧ _))

namespace Size

/-- Sizes are equal if their dimensions are. -/
theorem ext_get? {s t : Size} (h : ∀ k, s.get? k = t.get? k) : s = t := by
  obtain ⟨sl, sp, ss⟩ := s
  obtain ⟨tl, tp, ts⟩ := t
  obtain rfl : sl = tl := h .length
  obtain rfl : sp = tp := h .precision
  obtain rfl : ss = ts := h .scale
  rfl

theorem corrected_eq (supplied : Size) (code : TypeCode) (language : LanguageType) :
    supplied.corrected code language =
      { length :=
          if supplied.length = some 255 ∧ DefaultLengthYields code language then none
          else supplied.length
        precision :=
          if supplied.CountsDecimals code then supplied.precision.map binaryDigits
          else supplied.precision
        scale := if supplied.CountsDecimals code then none else supplied.scale } := by
  have hlength : (if supplied.length = some defaultLength && ignoresDefaultLength code language
      then none else supplied.length) =
      if supplied.length = some 255 ∧ DefaultLengthYields code language then none
      else supplied.length := by
    refine if_congr ?_ rfl rfl
    rw [Bool.and_eq_true, decide_eq_true_eq, ignoresDefaultLength_iff]
    rfl
  rw [← hlength]
  by_cases hcounts : supplied.CountsDecimals code
  · obtain ⟨hcode, hprecision, hscale⟩ := id hcounts
    obtain ⟨digits, hdigits⟩ := Option.ne_none_iff_exists'.1 hprecision
    obtain ⟨decimals, hdecimals⟩ := Option.ne_none_iff_exists'.1 hscale
    rw [if_pos hcounts, if_pos hcounts, corrected, isFloating_iff.2 hcode, hdigits, hdecimals]
    rfl
  · rw [if_neg hcounts, if_neg hcounts, corrected]
    split
    · next hfloat hdigits hdecimals =>
      refine absurd ⟨isFloating_iff.1 hfloat, ?_, ?_⟩ hcounts
      · simp [hdigits]
      · simp [hdecimals]
    · rfl

variable {supplied : Size} {code : TypeCode} {language : LanguageType} {k : Dimension}

theorem get?_corrected_of_kept (hcounts : k ≠ .length → ¬ supplied.CountsDecimals code)
    (hyields : k = .length → ¬ (supplied.length = some 255 ∧ DefaultLengthYields code language)) :
    (supplied.corrected code language).get? k = supplied.get? k := by
  rw [corrected_eq]
  cases k with
  | length => exact if_neg (hyields rfl)
  | precision => exact if_neg (hcounts (by decide))
  | scale => exact if_neg (hcounts (by decide))

/-- The corrections supply nothing. -/
theorem get?_corrected_eq_none (h : supplied.get? k = none) :
    (supplied.corrected code language).get? k = none := by
  rw [← h]
  refine get?_corrected_of_kept (fun hk hcounts => ?_) ?_
  · cases k with
    | length => exact hk rfl
    | precision => exact hcounts.2.1 h
    | scale => exact hcounts.2.2 h
  · rintro rfl ⟨hlength, -⟩
    exact Option.some_ne_none 255 (hlength.symm.trans h)

end Size

namespace SizeDefaults

/-- What a dimension is by default. It depends on the family of the type, and most types do
without. -/
def familyDefault (d : SizeDefaults) (code : TypeCode) (language : LanguageType) :
    Dimension → Option Nat
  | .length =>
    if code ∈ sizedByContent ++ largeObjects then some (d.lengthOf code language)
    else if code ∈ longForms then some longLength
    else none
  | .precision =>
    if code ∈ floatingPoint ++ subsecond ++ exactNumerics then some (d.precisionOf code language)
    else none
  | .scale => if code ∈ exactNumerics then some (d.scaleOf language) else none

variable {d : SizeDefaults} {code : TypeCode} {language : LanguageType}

theorem get?_natural (d : SizeDefaults) (code : TypeCode) (language : LanguageType)
    (k : Dimension) : (d.natural code language).get? k = d.familyDefault code language k := by
  cases code <;> cases k <;> rfl

/-- A resolved dimension is the supplied one after the corrections, or else the default. -/
theorem get?_resolve (d : SizeDefaults) (code : TypeCode) (language : LanguageType)
    (supplied : Size) (k : Dimension) : (d.resolve code language supplied).get? k =
      ((supplied.corrected code language).get? k <|> d.familyDefault code language k) := by
  rw [← get?_natural]
  cases k <;> rfl

theorem familyDefault_length (h : code ∈ sizedByContent) :
    d.familyDefault code language .length = some (d.lengthOf code language) := by
  rw [familyDefault, if_pos (List.mem_append_left _ h)]

theorem familyDefault_scale (h : code ∈ floatingPoint) :
    d.familyDefault code language .scale = none := by
  have hexact : code ∉ exactNumerics :=
    (by decide : ∀ c ∈ floatingPoint, c ∉ exactNumerics) code h
  rw [familyDefault, if_neg hexact]

/-- No content of one length has the general default length. -/
theorem lengthOf_ne_default (hcode : code ∈ sizedByContent)
    (hlanguage : language ∈ LanguageType.ofFixedLength) : d.lengthOf code language ≠ 255 := by
  have hstandard : d.lengthOf code language = standard.lengthOf code language := by
    cases code <;> cases language <;> first | rfl | exact absurd hcode (by decide)
  rw [hstandard]
  exact (by decide : ∀ c ∈ sizedByContent, ∀ l ∈ LanguageType.ofFixedLength,
    standard.lengthOf c l ≠ 255) code hcode language hlanguage

end SizeDefaults

/-- How a dimension of a column comes by its value. -/
inductive Settles (d : SizeDefaults) (code : TypeCode) (language : LanguageType)
    (supplied : Size) : Dimension → Option Nat → Prop
  /-- A number of decimal digits is converted. -/
  | converted {digits : Nat} (h : supplied.CountsDecimals code)
      (hdigits : supplied.precision = some digits) :
      Settles d code language supplied .precision (some (binaryDigits digits))
  /-- The scale beside it is dropped. -/
  | dropped (h : supplied.CountsDecimals code) : Settles d code language supplied .scale none
  /-- The general default length is replaced. -/
  | replaced (h : supplied.length = some 255) (hyields : DefaultLengthYields code language) :
      Settles d code language supplied .length (some (d.lengthOf code language))
  /-- Any other value that is supplied is kept. -/
  | kept {k : Dimension} {n : Nat} (h : supplied.get? k = some n)
      (hcounts : k ≠ .length → ¬ supplied.CountsDecimals code)
      (hyields : k = .length → n = 255 → ¬ DefaultLengthYields code language) :
      Settles d code language supplied k (some n)
  /-- What is not supplied is left to the family of the type. -/
  | natural {k : Dimension} (h : supplied.get? k = none) :
      Settles d code language supplied k (d.familyDefault code language k)

section Settles

variable {d : SizeDefaults} {code : TypeCode} {language : LanguageType} {supplied : Size}
  {k : Dimension} {value : Option Nat}

theorem Settles.get?_resolve (h : Settles d code language supplied k value) :
    (d.resolve code language supplied).get? k = value := by
  rw [d.get?_resolve]
  cases h with
  | converted h hdigits =>
    have hconverted : (supplied.corrected code language).get? .precision =
        supplied.precision.map binaryDigits := by
      rw [Size.corrected_eq]
      exact if_pos h
    rw [hconverted, hdigits]
    rfl
  | dropped h =>
    have hdropped : (supplied.corrected code language).get? .scale = none := by
      rw [Size.corrected_eq]
      exact if_pos h
    rw [hdropped, SizeDefaults.familyDefault_scale h.1]
    rfl
  | replaced h hyields =>
    have hreplaced : (supplied.corrected code language).get? .length = none := by
      rw [Size.corrected_eq]
      exact if_pos ⟨h, hyields⟩
    rw [hreplaced, SizeDefaults.familyDefault_length hyields.mem_sizedByContent]
    rfl
  | kept h hcounts hyields =>
    rw [Size.get?_corrected_of_kept hcounts, h]
    · rfl
    · rintro rfl ⟨hdefault, hy⟩
      exact hyields rfl (Option.some.inj (h.symm.trans hdefault)) hy
  | natural h =>
    rw [Size.get?_corrected_eq_none h]
    rfl

theorem exists_settles (d : SizeDefaults) (code : TypeCode) (language : LanguageType)
    (supplied : Size) (k : Dimension) : ∃ value, Settles d code language supplied k value := by
  cases h : supplied.get? k with
  | none => exact ⟨_, .natural h⟩
  | some n =>
    by_cases hcounts : k ≠ .length ∧ supplied.CountsDecimals code
    · cases k with
      | length => exact absurd rfl hcounts.1
      | precision => exact ⟨_, .converted hcounts.2 h⟩
      | scale => exact ⟨_, .dropped hcounts.2⟩
    · by_cases hyields : k = .length ∧ n = 255 ∧ DefaultLengthYields code language
      · obtain ⟨rfl, rfl, hyields⟩ := hyields
        exact ⟨_, .replaced h hyields⟩
      · exact ⟨_, .kept h (fun hk hc => hcounts ⟨hk, hc⟩)
          fun hk hn hy => hyields ⟨hk, hn, hy⟩⟩

theorem get?_resolve_eq_iff :
    (d.resolve code language supplied).get? k = value ↔
      Settles d code language supplied k value := by
  constructor
  · rintro rfl
    obtain ⟨value, h⟩ := exists_settles d code language supplied k
    rwa [h.get?_resolve]
  · exact Settles.get?_resolve

/-- A supplied length settles no other dimension. -/
theorem get?_resolve_of_ne_length (hk : k ≠ .length) (m n : Option Nat) :
    (d.resolve code language { supplied with length := m }).get? k =
      (d.resolve code language { supplied with length := n }).get? k := by
  rw [d.get?_resolve, d.get?_resolve, Size.corrected_eq, Size.corrected_eq]
  cases k with
  | length => exact absurd rfl hk
  | precision => rfl
  | scale => rfl

/-- For a content of one length the general default length is as good as none exactly where it
yields. -/
theorem resolve_default_eq_resolve_none_iff (hcode : code ∈ sizedByContent)
    (hlanguage : language ∈ LanguageType.ofFixedLength) :
    d.resolve code language { supplied with length := some 255 } =
        d.resolve code language { supplied with length := none } ↔
      DefaultLengthYields code language := by
  have hnone : (d.resolve code language { supplied with length := none }).get? .length =
      some (d.lengthOf code language) := by
    have h : Settles d code language { supplied with length := none } .length _ := .natural rfl
    rw [h.get?_resolve, SizeDefaults.familyDefault_length hcode]
  constructor
  · intro hsame
    -- if 255 stood, it would be the length of the content
    by_contra hstands
    have hkept : Settles d code language { supplied with length := some 255 } .length (some 255) :=
      .kept rfl (fun hk => absurd rfl hk) (fun _ _ => hstands)
    rw [← hsame, hkept.get?_resolve] at hnone
    exact SizeDefaults.lengthOf_ne_default hcode hlanguage (Option.some.inj hnone).symm
  · intro hyields
    have hreplaced : Settles d code language { supplied with length := some 255 } .length _ :=
      .replaced rfl hyields
    refine Size.ext_get? fun k => ?_
    by_cases hk : k = .length
    · rw [hk, hreplaced.get?_resolve, hnone]
    · exact get?_resolve_of_ne_length hk _ _

end Settles

/-- Every dimension of a column is settled in just one way: kept as supplied but for the two
corrections, and else a default. A column that is given the general default length is the one
that is given no length exactly where that length yields. -/
theorem sizes_settled_by_dimension (d : SizeDefaults) (code : TypeCode) (language : LanguageType)
    (supplied : Size) :
    (∀ k value, (d.resolve code language supplied).get? k = value ↔
      Settles d code language supplied k value) ∧
    (code ∈ sizedByContent → language ∈ LanguageType.ofFixedLength →
      (d.resolve code language { supplied with length := some 255 } =
          d.resolve code language { supplied with length := none } ↔
        DefaultLengthYields code language)) := by
  constructor
  · intro k value
    exact get?_resolve_eq_iff
  · exact resolve_default_eq_resolve_none_iff

theorem identifier_of_default_length :
    let code := TypeCode.varbinary
    let language := LanguageType.uuid
    let d := SizeDefaults.standard
    code ∈ sizedByContent ∧ language ∈ LanguageType.ofFixedLength ∧
      d.resolve code language { length := some 255, scale := some 3 } =
        d.resolve code language { scale := some 3 } := by
  intro code language d
  have hcode : code ∈ sizedByContent := by decide
  have hlanguage : language ∈ LanguageType.ofFixedLength := by decide
  have hsame := (sizes_settled_by_dimension d code language { scale := some 3 }).2 hcode hlanguage
  exact ⟨hcode, hlanguage, hsame.2 (by decide)⟩

/-- A boolean in a fixed string has one character, but 255 of them by the general default. -/
theorem boolean_keeps_default_length :
    let code := TypeCode.char
    let language := LanguageType.boolean
    let d := SizeDefaults.standard
    code ∈ sizedByContent ∧ language ∈ LanguageType.ofFixedLength ∧
      d.lengthOf code language = 1 ∧
      d.resolve code language { length := some 255 } = { length := some 255 } ∧
      d.resolve code language {} = { length := some 1 } := by
  decide

end PortableSql
