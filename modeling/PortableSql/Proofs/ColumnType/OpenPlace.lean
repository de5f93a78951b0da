import Mathlib.Data.Fintype.Basic
import PortableSql.ColumnType.NameTable
import PortableSql.Proofs.Text.Digraph

/-! Open places of type names. Filling a pattern takes one place away from every
dimension that is given, and the digits it writes neither make nor break a place of
another dimension. So a filled pattern has an open place exactly when the pattern asks
for a dimension more often than the size has it. -/

namespace PortableSql

open Text (Digraph)

/-- What a place of a pattern asks for. -/
inductive Dimension
  | length | precision | scale
  deriving DecidableEq, Repr

namespace Dimension

instance : Fintype Dimension := ⟨{.length, .precision, .scale}, by intro k; cases k <;> simp⟩

def place : Dimension → Digraph
  | length => lengthPlace
  | precision => precisionPlace
  | scale => scalePlace

theorem place_inj {j k : Dimension} : j.place = k.place ↔ j = k := by
  cases j <;> cases k <;> decide

/-- No place begins with a character that ends one. -/
theorem first_ne_second (j k : Dimension) : j.place.first ≠ k.place.second := by
  cases j <;> cases k <;> decide

end Dimension

namespace Size

def get? (size : Size) : Dimension → Option Nat
  | .length => size.length
  | .precision => size.precision
  | .scale => size.scale

/-- How many places of a dimension are filled: one if the size has it. -/
def supply (size : Size) (k : Dimension) : Nat := (size.get? k).isSome.toNat

theorem supply_le_one (size : Size) (k : Dimension) : size.supply k ≤ 1 := Bool.toNat_le _

/-- The size fills every place: the pattern asks for no dimension more often than it is there. -/
def Completes (size : Size) (pattern : String) : Prop :=
  ∀ k : Dimension, k.place.count pattern.toList ≤ size.supply k

instance (size : Size) (pattern : String) : Decidable (size.Completes pattern) :=
  inferInstanceAs (Decidable (∀ _, _))

end Size

/-- The digits of a number hold no character of a place. -/
theorem digits_notMem_place (n : Nat) (k : Dimension) :
    k.place.first ∉ (toString n).toList ∧ k.place.second ∉ (toString n).toList := by
  have hdigit : ∀ c : Char, c.isDigit = false → c ∉ (toString n).toList := by
    intro c hc hmem
    rw [Nat.toString_eq_ofList_toDigits, String.toList_ofList] at hmem
    simp [Nat.isDigit_of_mem_toDigits (by decide) (by decide) hmem] at hc
  constructor <;> apply hdigit <;> cases k <;> decide

theorem digits_ne_nil (n : Nat) : (toString n).toList ≠ [] := by
  rw [Nat.toString_eq_ofList_toDigits, String.toList_ofList]
  exact Nat.toDigits_ne_nil

theorem count_fillPlace (j k : Dimension) (value : Option Nat) (pattern : List Char) :
    j.place.count (fillPlace k.place value pattern) =
      j.place.count pattern - if j = k then value.isSome.toNat else 0 := by
  cases value with
  | none => simp [fillPlace]
  | some n =>
    obtain ⟨hfirst, hsecond⟩ := digits_notMem_place n j
    rw [fillPlace, Digraph.count_replaceFirst (digits_ne_nil n) hfirst hsecond
      (k.first_ne_second j) (j.first_ne_second k).symm]
    simp [Dimension.place_inj]

/-- Filling answers one place of every dimension that the size has. -/
theorem count_fillChars (k : Dimension) (size : Size) (pattern : List Char) :
    k.place.count (size.fillChars pattern) = k.place.count pattern - size.supply k := by
  change k.place.count (fillPlace (Dimension.place .precision) size.precision
    (fillPlace (Dimension.place .length) size.length
      (fillPlace (Dimension.place .scale) size.scale pattern))) = _
  rw [count_fillPlace, count_fillPlace, count_fillPlace, Size.supply]
  cases k <;> simp [Size.get?]

theorem hasOpenPlace_iff {typeName : String} :
    hasOpenPlace typeName = true ↔ ∃ k : Dimension, 0 < k.place.count typeName.toList := by
  simp only [hasOpenPlace, List.any_cons, List.any_nil, Bool.or_false, Bool.or_eq_true,
    Digraph.occursIn_iff_count]
  constructor
  · rintro (h | h | h)
    · exact ⟨.length, h⟩
    · exact ⟨.precision, h⟩
    · exact ⟨.scale, h⟩
  · rintro ⟨k, h⟩
    cases k with
    | length => exact .inl h
    | precision => exact .inr (.inl h)
    | scale => exact .inr (.inr h)

/-- A name has an open place if it holds one as two adjacent characters. -/
theorem hasOpenPlace_iff_exists {name : String} :
    hasOpenPlace name = true ↔ ∃ c ∈ ['l', 'p', 's'], ['$', c] <:+: name.toList := by
  simp only [hasOpenPlace, List.any_cons, List.any_nil, Bool.or_false, Bool.or_eq_true,
    Text.Digraph.occursIn_iff_infix, List.exists_mem_cons_iff, List.not_mem_nil, false_and,
    exists_false, or_false]
  rfl

/-- A type name without open places holds no place as two adjacent characters. -/
theorem place_not_infix {typeName : String} (h : hasOpenPlace typeName = false) (k : Dimension) :
    ¬ k.place.toList <:+: typeName.toList := by
  rw [← Digraph.occursIn_iff_infix, Digraph.occursIn_iff_count]
  intro hk
  rw [hasOpenPlace_iff.2 ⟨k, hk⟩] at h
  exact Bool.noConfusion h

theorem hasOpenPlace_fill {size : Size} {pattern : String} :
    hasOpenPlace (size.fill pattern) = false ↔ size.Completes pattern := by
  rw [← Bool.not_eq_true, hasOpenPlace_iff, not_exists]
  simp only [Size.fill, String.toList_ofList, count_fillChars, Size.Completes]
  exact forall_congr' fun k => by omega

end PortableSql
