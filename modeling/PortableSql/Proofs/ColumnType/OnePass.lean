import Mathlib.Data.List.Induction
import Mathlib.Data.List.Nodup
import PortableSql.Proofs.ColumnType.OpenPlace

/-! Filling a pattern as one pass. A pass reads a pattern from left to right, writes the digits
of a dimension at the first of its places and copies everything else. Filling one place after the
other comes to the same in any order, because digits hold no character of a place: what one
filling has written neither makes nor breaks a place that another one looks for. So the places of
a text, read in their order, lose the first one of the dimension that is filled and no other. -/

namespace PortableSql

open Text (Digraph)

namespace Dimension

/-- The dimension whose place two characters are. -/
def ofPlace? (a b : Char) : Option Dimension :=
  [length, precision, scale].find? fun k => a = k.place.first && b = k.place.second

theorem ofPlace?_eq_some_iff {a b : Char} {k : Dimension} :
    ofPlace? a b = some k ↔ a = k.place.first ∧ b = k.place.second := by
  constructor
  · intro h
    simpa using List.find?_some h
  · rintro ⟨rfl, rfl⟩
    cases k <;> decide

end Dimension

/-- The digits of a number begin with a character that ends no place. -/
theorem exists_digits_eq_cons (n : Nat) :
    ∃ c t, (toString n).toList = c :: t ∧ ∀ k : Dimension, c ≠ k.place.second := by
  obtain ⟨c, t, hdigits⟩ := List.exists_cons_of_ne_nil (digits_ne_nil n)
  refine ⟨c, t, hdigits, ?_⟩
  rintro k rfl
  exact (digits_notMem_place n k).2 (hdigits ▸ List.mem_cons_self)

namespace Size

/-- The size without a dimension. -/
def without (size : Size) : Dimension → Size
  | .length => { size with length := none }
  | .precision => { size with precision := none }
  | .scale => { size with scale := none }

variable {size : Size} {j k : Dimension}

@[simp] theorem get?_without_self : (size.without k).get? k = none := by
  cases k <;> rfl

theorem get?_without_of_ne (h : j ≠ k) : (size.without k).get? j = size.get? j := by
  cases j <;> cases k <;> first | rfl | exact absurd rfl h

theorem without_comm : (size.without j).without k = (size.without k).without j := by
  cases j <;> cases k <;> rfl

theorem without_eq_self (h : size.get? k = none) : size.without k = size := by
  cases size
  cases k <;> simp_all [get?, without]

/-- What two characters of a pattern give way to: if they are the place of a dimension that the
size has, the dimension and its value. -/
def answer? (size : Size) (a b : Char) : Option (Dimension × Nat) :=
  (Dimension.ofPlace? a b).bind fun k => (size.get? k).map fun n => (k, n)

/-- One pass over a pattern from left to right. A place of a dimension that the size has gives
way to its digits, and the rest is read with the dimension used up. All else is copied. -/
def pass : Size → List Char → List Char
  | size, a :: b :: rest =>
    match size.answer? a b with
    | some (k, n) => (toString n).toList ++ (size.without k).pass rest
    | none => a :: size.pass (b :: rest)
  | _, short => short

/-- Fill one place of every listed dimension that the size has, one after the other. -/
def fillInOrder (size : Size) (order : List Dimension) (pattern : List Char) : List Char :=
  order.foldl (fun text k => fillPlace k.place (size.get? k) text) pattern

section Pass

variable {a b : Char} {n : Nat} {rest : List Char}

theorem answer?_eq_some_iff :
    size.answer? a b = some (k, n) ↔
      (a = k.place.first ∧ b = k.place.second) ∧ size.get? k = some n := by
  simp only [answer?, Option.bind_eq_some_iff, Option.map_eq_some_iff, Prod.mk.injEq,
    Dimension.ofPlace?_eq_some_iff]
  constructor
  · rintro ⟨j, hplace, m, hm, rfl, rfl⟩
    exact ⟨hplace, hm⟩
  · rintro ⟨hplace, hn⟩
    exact ⟨k, hplace, n, hn, rfl, rfl⟩

theorem answer?_without (h : size.answer? a b = none) : (size.without k).answer? a b = none := by
  rw [Option.eq_none_iff_forall_ne_some] at h ⊢
  rintro ⟨j, n⟩ hj
  obtain ⟨hplace, hn⟩ := answer?_eq_some_iff.1 hj
  have hjk : j ≠ k := by
    rintro rfl
    simp at hn
  exact h (j, n) (answer?_eq_some_iff.2 ⟨hplace, get?_without_of_ne hjk ▸ hn⟩)

theorem pass_cons_of_answer? (h : size.answer? a b = none) :
    size.pass (a :: b :: rest) = a :: size.pass (b :: rest) := by
  rw [pass, h]

/-- A place of a dimension that the size lacks is copied. -/
theorem pass_place (h : size.get? k = none) :
    size.pass (k.place.first :: k.place.second :: rest) =
      k.place.first :: k.place.second :: size.pass rest := by
  have hplace : size.answer? k.place.first k.place.second = none := by
    rw [answer?, Dimension.ofPlace?_eq_some_iff.2 ⟨rfl, rfl⟩, Option.bind_some, h, Option.map_none]
  rw [pass_cons_of_answer? hplace]
  cases rest with
  | nil => rfl
  | cons b rest =>
    -- no place begins with the second character of another
    have hsecond : size.answer? k.place.second b = none := by
      rw [Option.eq_none_iff_forall_ne_some]
      rintro ⟨j, n⟩ hj
      exact j.first_ne_second k (answer?_eq_some_iff.1 hj).1.1.symm
    rw [pass_cons_of_answer? hsecond]

/-- A pass shows the end of a place at the front only where it stood. -/
theorem head?_pass (size : Size) (k : Dimension) (s : List Char) :
    (size.pass s).head? = some k.place.second ↔ s.head? = some k.place.second := by
  fun_cases size.pass s with
  | case1 size a b rest j n hanswer =>
    obtain ⟨⟨rfl, rfl⟩, -⟩ := answer?_eq_some_iff.1 hanswer
    obtain ⟨c, t, hdigits, hc⟩ := exists_digits_eq_cons n
    rw [hdigits]
    simp [hc k, j.first_ne_second k]
  | case2 size a b rest hanswer => rfl
  | case3 => rfl

/-- Without dimensions a pass copies. -/
theorem pass_of_forall_none (h : ∀ k, size.get? k = none) (s : List Char) : size.pass s = s := by
  fun_induction size.pass s with
  | case1 size a b rest k n hanswer ih =>
    have hn := (answer?_eq_some_iff.1 hanswer).2
    rw [h k] at hn
    exact absurd hn.symm (Option.some_ne_none n)
  | case2 size a b rest hanswer ih => rw [ih h]
  | case3 => rfl

/-- A pass is a pass without a dimension after which one place of the dimension is filled. -/
theorem pass_eq_fillPlace (size : Size) (k : Dimension) (s : List Char) :
    size.pass s = fillPlace k.place (size.get? k) ((size.without k).pass s) := by
  cases hk : size.get? k with
  | none => rw [without_eq_self hk, fillPlace]
  | some m =>
    rw [fillPlace]
    fun_induction size.pass s with
    | case1 size a b rest j n hanswer ih =>
      obtain ⟨⟨rfl, rfl⟩, hn⟩ := answer?_eq_some_iff.1 hanswer
      by_cases hjk : j = k
      · subst hjk
        obtain rfl := Option.some.inj (hk.symm.trans hn)
        rw [pass_place get?_without_self, Digraph.replaceFirst, if_pos ⟨rfl, rfl⟩]
      · have hanswer' : (size.without k).answer? j.place.first j.place.second = some (j, n) :=
          answer?_eq_some_iff.2 ⟨⟨rfl, rfl⟩, (get?_without_of_ne hjk).trans hn⟩
        rw [pass, hanswer', ih ((get?_without_of_ne (Ne.symm hjk)).trans hk), without_comm]
        exact (Digraph.replaceFirst_append_of_notMem (digits_notMem_place n k).1 _).symm
    | case2 size a b rest hanswer ih =>
      have hplace : ¬ (a = k.place.first ∧
          ((size.without k).pass (b :: rest)).head? = some k.place.second) := by
        rw [head?_pass, List.head?_cons, Option.some_inj]
        intro hplace
        rw [answer?_eq_some_iff.2 ⟨hplace, hk⟩] at hanswer
        exact Option.some_ne_none _ hanswer
      rw [pass_cons_of_answer? (answer?_without hanswer), Digraph.replaceFirst_cons, if_neg hplace,
        ih hk]
    | case3 size s hs =>
      have hcopy : (size.without k).pass s = s := by
        rw [pass]
        exact fun a b rest h => hs a b rest h
      rw [hcopy, Digraph.replaceFirst]
      exact hs

/-- Whatever the order, filling one place after the other comes to one pass. -/
theorem fillInOrder_eq_pass {order : List Dimension} (hnodup : order.Nodup)
    (h : ∀ k ∉ order, size.get? k = none) (s : List Char) :
    size.fillInOrder order s = size.pass s := by
  -- the dimension filled last is the one that the pass does without
  induction order using List.reverseRecOn generalizing size with
  | nil => exact (pass_of_forall_none (fun k => h k List.not_mem_nil) s).symm
  | append_singleton order k ih =>
    rw [List.nodup_middle, List.append_nil, List.nodup_cons] at hnodup
    obtain ⟨hk, hrest⟩ := hnodup
    have hbefore : size.fillInOrder order s = (size.without k).fillInOrder order s := by
      refine List.foldl_ext _ _ _ fun text j hj => ?_
      rw [get?_without_of_ne (ne_of_mem_of_not_mem hj hk)]
    have hwithout : ∀ j ∉ order, (size.without k).get? j = none := by
      intro j hj
      by_cases hjk : j = k
      · rw [hjk, get?_without_self]
      · rw [get?_without_of_ne hjk]
        exact h j (by simp [hj, hjk])
    rw [pass_eq_fillPlace size k, ← ih hrest hwithout, ← hbefore, fillInOrder, List.foldl_append]
    rfl

end Pass

end Size

/-- The places of a text from left to right, each as its dimension. -/
def places : List Char → List Dimension
  | a :: b :: rest => (Dimension.ofPlace? a b).toList ++ places (b :: rest)
  | _ => []

theorem places_cons (a : Char) (s : List Char) :
    places (a :: s) = (s.head?.bind (Dimension.ofPlace? a)).toList ++ places s := by
  cases s with
  | nil => rfl
  | cons b rest => rfl

theorem head?_bind_ofPlace? {a : Char} {s : List Char} {k : Dimension} :
    s.head?.bind (Dimension.ofPlace? a) = some k ↔
      a = k.place.first ∧ s.head? = some k.place.second := by
  simp only [Option.bind_eq_some_iff, Dimension.ofPlace?_eq_some_iff]
  constructor
  · rintro ⟨b, hb, rfl, rfl⟩
    exact ⟨rfl, hb⟩
  · rintro ⟨rfl, hb⟩
    exact ⟨_, hb, rfl, rfl⟩

/-- No place begins inside a text without the first character of one. -/
theorem places_append_of_notMem {t : List Char} (h : ∀ k : Dimension, k.place.first ∉ t)
    (s : List Char) : places (t ++ s) = places s := by
  induction t with
  | nil => rfl
  | cons a t ih =>
    have hnone : (t ++ s).head?.bind (Dimension.ofPlace? a) = none := by
      rw [Option.eq_none_iff_forall_ne_some]
      intro k hk
      exact h k ((head?_bind_ofPlace?.1 hk).1 ▸ List.mem_cons_self)
    rw [List.cons_append, places_cons, hnone, Option.toList_none, List.nil_append]
    exact ih fun k hk => h k (List.mem_cons_of_mem _ hk)

/-- Filling a place erases it from the places of the text and leaves all others as they stand. -/
theorem places_fillPlace (k : Dimension) (n : Nat) (text : List Char) :
    places (fillPlace k.place (some n) text) = (places text).erase k := by
  rw [fillPlace]
  fun_induction k.place.replaceFirst (toString n).toList text with
  | case1 a b rest hab =>
    obtain ⟨rfl, rfl⟩ := hab
    have hsecond : places ([k.place.second] ++ rest) = places rest :=
      places_append_of_notMem (fun j hj => j.first_ne_second k (List.mem_singleton.1 hj)) rest
    rw [places_append_of_notMem fun j => (digits_notMem_place n j).1, places,
      Dimension.ofPlace?_eq_some_iff.2 ⟨rfl, rfl⟩, ← List.singleton_append, hsecond]
    exact (List.erase_cons_head k _).symm
  | case2 a b rest hab ih =>
    have hhead : (k.place.replaceFirst (toString n).toList (b :: rest)).head?.bind
        (Dimension.ofPlace? a) = Dimension.ofPlace? a b := by
      refine Option.ext fun j => ?_
      rw [head?_bind_ofPlace?, Digraph.head?_replaceFirst (digits_ne_nil n)
        (digits_notMem_place n j).2 (k.first_ne_second j), Dimension.ofPlace?_eq_some_iff,
        List.head?_cons, Option.some_inj]
    have hother : k ∉ (Dimension.ofPlace? a b).toList := by
      rwa [Option.mem_toList, Dimension.ofPlace?_eq_some_iff]
    rw [places_cons, hhead, ih, places, List.erase_append_right _ hother]
  | case3 s hs =>
    rw [places]
    · rfl
    · exact hs

/-- To fill a pattern is to pass over it once, and to fill its places one after the other in any
order. Filling a place of a text takes it from the places of the text and no other. -/
theorem fill_is_one_pass (size : Size) (pattern : String) :
    (size.fill pattern).toList = size.pass pattern.toList ∧
      (∀ order : List Dimension, order.Perm [.scale, .length, .precision] →
        size.fillInOrder order pattern.toList = (size.fill pattern).toList) ∧
      ∀ (k : Dimension) (n : Nat) (text : List Char),
        places (fillPlace k.place (some n) text) = (places text).erase k := by
  have hpass : ∀ order : List Dimension, order.Perm [.scale, .length, .precision] →
      size.fillInOrder order pattern.toList = size.pass pattern.toList := by
    intro order horder
    have hall : ∀ k, k ∈ order := by
      intro k
      rw [horder.mem_iff]
      cases k <;> decide
    have hnodup : order.Nodup := horder.nodup_iff.2 (by decide)
    exact Size.fillInOrder_eq_pass hnodup (fun k hk => absurd (hall k) hk) _
  have hfill : (size.fill pattern).toList = size.pass pattern.toList := by
    rw [Size.fill, String.toList_ofList]
    exact hpass _ (List.Perm.refl _)
  refine ⟨hfill, fun order horder => ?_, places_fillPlace⟩
  rw [hpass order horder, hfill]

/-- A second place, a place without a value and a stray mark before a place all stay. -/
theorem mixed_places_in_any_order :
    let size : Size := { length := some 12, scale := some 3 }
    let order : List Dimension := [.precision, .length, .scale]
    order.Perm [.scale, .length, .precision] ∧
      size.fillInOrder order "$$l,$l$s$p".toList = "$12,$l3$p".toList := by
  intro size order
  have horder : order.Perm [.scale, .length, .precision] := by decide
  refine ⟨horder, ((fill_is_one_pass size "$$l,$l$s$p").2.1 order horder).trans ?_⟩
  decide +kernel

end PortableSql
