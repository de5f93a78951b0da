import PortableSql.Proofs.ColumnType.BorrowedName
import PortableSql.Proofs.ColumnType.OnePass

/-! Type names in schema definitions. A definition takes the name that is resolved for a column
or is refused, and it is refused when filling leaves a place of the pattern open. That happens to
a place whose dimension is missing from the size. It also happens to every further place of a
dimension that is there, because only the first one is filled. Where neither is the case, all
places of the pattern are filled. -/

namespace PortableSql

open Text (Digraph)

/-- Fill all places of a dimension, if the dimension is given. -/
def fillEveryPlace (place : Digraph) (value : Option Nat) (pattern : List Char) : List Char :=
  value.elim pattern fun n => place.replaceAll (toString n).toList pattern

namespace Size

/-- The type name a pattern stands for when no place of a dimension that the size has is passed
over. -/
def fillEvery (size : Size) (pattern : String) : String :=
  String.ofList <| [.scale, .length, .precision].foldl
    (fun text k => fillEveryPlace (Dimension.place k) (size.get? k) text) pattern.toList

/-- Filling leaves a place of the dimension open: the size does not have the dimension, or the
pattern has more than one place for it. -/
def LeavesOpen (size : Size) (pattern : String) (k : Dimension) : Prop :=
  k.place.toList <:+: pattern.toList ∧
    (size.get? k = none ∨ 1 < k.place.count pattern.toList)

variable {size : Size} {pattern : String}

theorem completes_iff_forall_not_leavesOpen :
    size.Completes pattern ↔ ∀ k, ¬ size.LeavesOpen pattern k := by
  refine forall_congr' fun k => ?_
  rw [LeavesOpen, Digraph.isInfix_iff_count, supply]
  cases size.get? k with
  | none => simp
  | some n =>
    simp only [Option.isSome_some, Bool.toNat_true, reduceCtorEq, false_or]
    omega

/-- In a text with no place twice it does not matter whether all places are filled or the first
ones only. -/
theorem foldl_fillEveryPlace (size : Size) (order : List Dimension) {text : List Char}
    (h : ∀ k : Dimension, k.place.count text ≤ 1) :
    order.foldl (fun text k => fillEveryPlace k.place (size.get? k) text) text =
      size.fillInOrder order text := by
  -- filling adds no place to a text, which carries the bound through the fold
  induction order generalizing text with
  | nil => rfl
  | cons k order ih =>
    have hfirst : fillEveryPlace k.place (size.get? k) text =
        fillPlace k.place (size.get? k) text := by
      cases size.get? k with
      | none => rfl
      | some n => exact Digraph.replaceAll_eq_replaceFirst (h k)
    have hcount : ∀ j : Dimension,
        j.place.count (fillPlace k.place (size.get? k) text) ≤ 1 := by
      intro j
      rw [count_fillPlace]
      exact (Nat.sub_le _ _).trans (h j)
    rw [List.foldl_cons, hfirst, ih hcount]
    rfl

theorem fillEvery_eq_fill (h : size.Completes pattern) :
    size.fillEvery pattern = size.fill pattern := by
  have hcount : ∀ k : Dimension, k.place.count pattern.toList ≤ 1 :=
    fun k => (h k).trans (size.supply_le_one k)
  rw [fillEvery, size.foldl_fillEveryPlace _ hcount]
  rfl

end Size

theorem Dialect.ddlTypeName_of_typePattern? {d : Dialect} {code : TypeCode} {size : Size}
    {pattern : String} (h : d.typePattern? code size = some pattern) :
    d.ddlTypeName code size =
      if hasOpenPlace (size.fill pattern) then
        .error (.unresolvedPlaceholder code (size.fill pattern))
      else .ok (size.fill pattern) := by
  rw [ddlTypeName, resolveTypeName_of_typePattern? h]
  rfl

/-- A schema definition is refused a type name exactly if filling leaves a place of its pattern
open. Otherwise the name is the pattern with all its places filled. -/
theorem ddlTypeName_refused_iff (d : Dialect) (code : TypeCode) (size : Size) (pattern : String)
    (h : d.typePattern? code size = some pattern) :
    (d.ddlTypeName code size = .error (.unresolvedPlaceholder code (size.fill pattern)) ↔
      ∃ k, size.LeavesOpen pattern k) ∧
    ((∀ k, ¬ size.LeavesOpen pattern k) →
      d.ddlTypeName code size = .ok (size.fillEvery pattern) ∧
        ∀ k : Dimension, ¬ k.place.toList <:+: (size.fillEvery pattern).toList) := by
  rw [Dialect.ddlTypeName_of_typePattern? h, ← not_forall_not,
    ← Size.completes_iff_forall_not_leavesOpen, ← hasOpenPlace_fill]
  constructor
  · cases hasOpenPlace (size.fill pattern) <;> simp
  · intro hclosed
    rw [Size.fillEvery_eq_fill (hasOpenPlace_fill.1 hclosed), hclosed]
    exact ⟨rfl, place_not_infix hclosed⟩

/-- A decimal of which only the precision is known has no name in a definition. -/
theorem decimal_without_scale_refused :
    let d := Dialect.standard
    let size : Size := { precision := some 10 }
    d.typePattern? .decimal size = some "decimal($p,$s)" ∧
      d.ddlTypeName .decimal size =
        .error (.unresolvedPlaceholder .decimal "decimal(10,$s)") := by
  intro d size
  have hpattern : d.typePattern? .decimal size = some "decimal($p,$s)" := by decide +kernel
  have hfill : size.fill "decimal($p,$s)" = "decimal(10,$s)" := by decide +kernel
  have hopen : size.LeavesOpen "decimal($p,$s)" .scale := ⟨by decide +kernel, .inl rfl⟩
  refine ⟨hpattern, ?_⟩
  rw [← hfill]
  exact (ddlTypeName_refused_iff d .decimal size _ hpattern).1.2 ⟨.scale, hopen⟩

/-- A precision that the pattern asks for twice is written once, and the definition is refused. -/
theorem repeated_precision_refused :
    let pattern := "interval day($p) to second($p)"
    let d := ((Draft.standard .standard).register [.typeName (.register .time pattern)]).build
    let size : Size := { precision := some 3 }
    d.typePattern? .time size = some pattern ∧
      (¬ ∃ k : Dimension, k.place.toList <:+: pattern.toList ∧ size.get? k = none) ∧
      size.fillEvery pattern = "interval day(3) to second(3)" ∧
      d.ddlTypeName .time size =
        .error (.unresolvedPlaceholder .time "interval day(3) to second($p)") := by
  intro pattern d size
  exact ⟨by decide +kernel, by decide +kernel, by decide +kernel, by decide +kernel⟩

end PortableSql
