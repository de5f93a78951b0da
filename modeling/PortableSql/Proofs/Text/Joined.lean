import Mathlib.Algebra.Ring.Nat

/-! Joined texts and their characters. A list of texts may be joined as a whole, or each text but
the first may bring the separator with it. A separator adds no mark that it does not hold itself,
so a mark stands in a joined text as often as in its parts. Characters of one kind are told apart
from what follows them where that begins with another kind. -/

namespace PortableSql.Text

variable {c : Char} {separator : String}

/-- Characters of one kind in front of something else are all that is taken. -/
theorem takeWhile_append_of_stop {p : Char → Bool} {s rest : List Char} (hs : ∀ c ∈ s, p c = true)
    (hrest : ∀ c ∈ rest.head?, p c = false) :
    (s ++ rest).takeWhile p = s ∧ (s ++ rest).dropWhile p = rest := by
  rw [List.takeWhile_append_of_pos hs, List.dropWhile_append_of_pos hs]
  cases rest with
  | nil => simp
  | cons c rest =>
    have hc : p c = false := hrest c rfl
    simp [hc]

/-- A separator of one character, behind the first text. -/
theorem toList_intercalate_cons_cons (h : separator.toList = [c]) (text next : String)
    (texts : List String) :
    (separator.intercalate (text :: next :: texts)).toList =
      text.toList ++ c :: (separator.intercalate (next :: texts)).toList := by
  rw [String.intercalate_cons_cons, String.toList_append, String.toList_append, h,
    List.append_assoc, List.singleton_append]

/-- Each text but the first brings the separator with it. -/
theorem intercalate_cons (separator text : String) (texts : List String) :
    separator.intercalate (text :: texts) = text ++ String.join (texts.map (separator ++ ·)) := by
  induction texts generalizing text with
  | nil => simp
  | cons next texts ih =>
    rw [String.intercalate_cons_cons, ih next, List.map_cons, String.join_cons,
      String.append_assoc, String.append_assoc]

/-- Texts that bring the separator with them go on with a list that is not empty. -/
theorem intercalate_append {texts : List String} (h : texts ≠ []) (separator : String)
    (more : List String) :
    separator.intercalate texts ++ String.join (more.map (separator ++ ·)) =
      separator.intercalate (texts ++ more) := by
  obtain ⟨text, texts, rfl⟩ := List.exists_cons_of_ne_nil h
  rw [List.cons_append, intercalate_cons, intercalate_cons, List.map_append, String.join_append,
    String.append_assoc]

theorem count_intercalate (h : c ∉ separator.toList) (texts : List String) :
    (separator.intercalate texts).toList.count c =
      (texts.map fun text => text.toList.count c).sum := by
  induction texts with
  | nil => simp
  | cons text rest ih =>
    cases rest with
    | nil => simp
    | cons next rest =>
      rw [String.intercalate_cons_cons, String.toList_append, String.toList_append,
        List.count_append, List.count_append, ih, List.count_eq_zero_of_not_mem h]
      simp

theorem notMem_intercalate_iff (h : c ∉ separator.toList) {texts : List String} :
    c ∉ (separator.intercalate texts).toList ↔ ∀ text ∈ texts, c ∉ text.toList := by
  rw [← List.count_eq_zero, count_intercalate h, List.sum_eq_zero_iff_forall_eq_nat]
  simp [List.count_eq_zero]

theorem notMem_join_iff {texts : List String} :
    c ∉ (String.join texts).toList ↔ ∀ text ∈ texts, c ∉ text.toList := by
  simp [String.toList_join, List.mem_flatMap]

end PortableSql.Text
