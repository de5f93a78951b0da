import Mathlib.Tactic.SplitIfs
import PortableSql.Text.Digraph

/-! How often a pair of characters stands in a text. A pair occurs when its count is
positive, which is to say that its two characters are an infix of the text. Replacing
the leftmost occurrence takes one away from the count of the pair and leaves that of
another pair alone, if the replacement holds no character of the pair that is counted
and the two pairs cannot overlap. A pair that stands at most once is replaced everywhere by
replacing its leftmost occurrence. Otherwise the pair cuts the text into pieces without it, and
replacing it everywhere joins them by what replaces it. -/

namespace PortableSql.Text.Digraph

variable {d e : Digraph} {r s : List Char}

/-- The number of places at which the pair stands. -/
def count (d : Digraph) : List Char → Nat
  | a :: b :: rest => (if a = d.first ∧ b = d.second then 1 else 0) + d.count (b :: rest)
  | _ => 0

theorem count_cons (d : Digraph) (a : Char) (s : List Char) :
    d.count (a :: s) = (if a = d.first ∧ s.head? = some d.second then 1 else 0) + d.count s := by
  cases s with
  | nil => simp [count]
  | cons b rest => simp [count]

/-- A text of fewer than two characters holds no pair. -/
theorem count_of_short (h : ∀ a b rest, s = a :: b :: rest → False) : d.count s = 0 := by
  rw [count]
  exact h

theorem occursIn_iff_count : d.occursIn s = true ↔ 0 < d.count s := by
  fun_induction d.occursIn s with
  | case1 a b rest ih =>
    rw [count, Bool.or_eq_true, ih]
    split_ifs with h
    · simp [h, Nat.add_comm 1]
    · simp [h]
  | case2 s hs => simp [count_of_short hs]

theorem occursIn_iff_infix : d.occursIn s = true ↔ d.toList <:+: s := by
  fun_induction d.occursIn s with
  | case1 a b rest ih =>
    have hprefix : d.toList <+: a :: b :: rest ↔ a = d.first ∧ b = d.second := by
      rw [toList, List.cons_prefix_cons, List.cons_prefix_cons]
      simp [eq_comm]
    rw [List.infix_cons_iff, hprefix, ← ih]
    simp
  | case2 s hs =>
    constructor
    · simp
    · intro h
      have hlen := h.length_le
      cases s with
      | nil => simp [toList] at hlen
      | cons a s =>
        cases s with
        | nil => simp [toList] at hlen
        | cons b rest => exact absurd rfl (hs a b rest)

theorem isInfix_iff_count : d.toList <:+: s ↔ 0 < d.count s :=
  occursIn_iff_infix.symm.trans occursIn_iff_count

theorem count_eq_zero_iff : d.count s = 0 ↔ ¬ d.toList <:+: s := by
  rw [isInfix_iff_count]
  omega

/-- No pair begins inside a text without its first character. -/
theorem count_append_of_notMem (h : d.first ∉ r) (s : List Char) :
    d.count (r ++ s) = d.count s := by
  induction r with
  | nil => rfl
  | cons a r ih =>
    rw [List.mem_cons, not_or] at h
    rw [List.cons_append, count_cons, ih h.2, if_neg (fun hc => h.1 hc.1.symm), Nat.zero_add]

/-- No pair reaches over a character that is in neither place of it. -/
theorem count_append_cons {c : Char} (hfirst : c ≠ d.first) (hsecond : c ≠ d.second)
    (r s : List Char) : d.count (r ++ c :: s) = d.count r + d.count s := by
  induction r with
  | nil =>
    rw [List.nil_append, count_cons, if_neg (fun h => hfirst h.1)]
    rfl
  | cons a r ih =>
    have hhead : (r ++ c :: s).head? = some d.second ↔ r.head? = some d.second := by
      cases r with
      | nil => simp [hsecond]
      | cons b r => rfl
    rw [List.cons_append, count_cons, count_cons, ih]
    simp only [hhead]
    omega

theorem replaceFirst_cons (e : Digraph) (r : List Char) (a : Char) (s : List Char) :
    e.replaceFirst r (a :: s) =
      if a = e.first ∧ s.head? = some e.second then r ++ s.tail else a :: e.replaceFirst r s := by
  cases s with
  | nil => simp [replaceFirst]
  | cons b rest => simp [replaceFirst]

/-- No pair is replaced inside a text without its first character. -/
theorem replaceFirst_append_of_notMem {t : List Char} (h : e.first ∉ t) (s : List Char) :
    e.replaceFirst r (t ++ s) = t ++ e.replaceFirst r s := by
  induction t with
  | nil => rfl
  | cons a t ih =>
    rw [List.mem_cons, not_or] at h
    rw [List.cons_append, replaceFirst_cons, if_neg (fun hc => h.1 hc.1.symm), ih h.2,
      List.cons_append]

/-- A replacement shows the second character of a pair at the front only where it stood. -/
theorem head?_replaceFirst (hr : r ≠ []) (hd : d.second ∉ r) (he : e.first ≠ d.second)
    (s : List Char) :
    (e.replaceFirst r s).head? = some d.second ↔ s.head? = some d.second := by
  fun_cases e.replaceFirst r s with
  | case1 a b rest hab =>
    obtain ⟨c, t, rfl⟩ := List.exists_cons_of_ne_nil hr
    have hc : c ≠ d.second := fun h => hd (by simp [h])
    simp [hab.1, hc, he]
  | case2 a b rest hab => simp
  | case3 => rfl

theorem count_replaceFirst (hr : r ≠ []) (hfirst : d.first ∉ r) (hsecond : d.second ∉ r)
    (h₁ : e.first ≠ d.second) (h₂ : e.second ≠ d.first) (s : List Char) :
    d.count (e.replaceFirst r s) = d.count s - if d = e then 1 else 0 := by
  have heq : d = e ↔ e.first = d.first ∧ e.second = d.second := by
    cases d; cases e; simp [eq_comm]
  fun_induction e.replaceFirst r s with
  | case1 a b rest hab =>
    obtain ⟨rfl, rfl⟩ := hab
    have hrest : d.count (e.second :: rest) = d.count rest := by
      rw [count_cons, if_neg (fun hc => h₂ hc.1), Nat.zero_add]
    rw [count_append_of_notMem hfirst, count, hrest]
    simp only [heq]
    omega
  | case2 a b rest hab ih =>
    -- the pair that starts at `a` is not the one that is replaced
    have hhead := head?_replaceFirst hr hsecond h₁ (b :: rest)
    rw [count_cons, count_cons, ih]
    simp only [hhead, heq, List.head?_cons, Option.some.injEq]
    split_ifs with hd he he
    · exact absurd ⟨hd.1.trans he.1.symm, hd.2.trans he.2.symm⟩ hab
    · omega
    · omega
    · omega
  | case3 s hs => rw [count_of_short hs, Nat.zero_sub]

/-- Where a pair stands at most once, its leftmost occurrence is all of them. -/
theorem replaceAll_eq_replaceFirst (h : d.count s ≤ 1) :
    d.replaceAll r s = d.replaceFirst r s := by
  fun_induction d.replaceFirst r s with
  | case1 a b rest hab =>
    rw [count, if_pos hab, count_cons] at h
    have hnone : d.occursIn rest = false := by
      rw [← Bool.not_eq_true, occursIn_iff_count]
      omega
    rw [replaceAll, if_pos hab, replaceAll_of_not_occursIn hnone]
  | case2 a b rest hab ih =>
    rw [count, if_neg hab, Nat.zero_add] at h
    rw [replaceAll, if_neg hab, ih h]
  | case3 s hs =>
    rw [replaceAll]
    exact hs

/-- The pieces of a text between the places of the pair, from the left and without overlap. -/
def cut (d : Digraph) : List Char → List (List Char)
  | a :: b :: rest =>
    if a = d.first ∧ b = d.second then [] :: d.cut rest
    else (d.cut (b :: rest)).modifyHead (a :: ·)
  | short => [short]

theorem cut_ne_nil (d : Digraph) (s : List Char) : d.cut s ≠ [] := by
  fun_induction d.cut s with
  | case1 => simp
  | case2 a b rest hab ih => simpa using ih
  | case3 => simp

/-- A piece goes on with the character that follows, unless the pair begins there. -/
theorem head?_of_cut {b : Char} {rest piece : List Char} {pieces : List (List Char)}
    (h : d.cut (b :: rest) = piece :: pieces) : ∀ c ∈ piece.head?, c = b := by
  cases rest with
  | nil =>
    obtain ⟨rfl, -⟩ := List.cons.inj h
    simp
  | cons a rest =>
    rw [cut] at h
    split_ifs at h with hab
    · obtain ⟨rfl, -⟩ := List.cons.inj h
      simp
    · cases hcut : d.cut (a :: rest) with
      | nil => exact absurd hcut (d.cut_ne_nil _)
      | cons next more =>
        rw [hcut, List.modifyHead_cons] at h
        obtain ⟨rfl, -⟩ := List.cons.inj h
        simp

/-- No piece holds the pair. -/
theorem count_of_mem_cut {piece : List Char} (h : piece ∈ d.cut s) : d.count piece = 0 := by
  fun_induction d.cut s generalizing piece with
  | case1 a b rest hab ih =>
    rcases List.mem_cons.1 h with rfl | h
    · rfl
    · exact ih h
  | case2 a b rest hab ih =>
    cases hcut : d.cut (b :: rest) with
    | nil => exact absurd hcut (d.cut_ne_nil _)
    | cons first more =>
      rw [hcut] at h ih
      rw [List.modifyHead_cons] at h
      rcases List.mem_cons.1 h with rfl | h
      · have hpair : ¬ (a = d.first ∧ first.head? = some d.second) := fun hpair =>
          hab ⟨hpair.1, (head?_of_cut hcut _ hpair.2).symm⟩
        rw [count_cons, if_neg hpair, ih List.mem_cons_self]
      · exact ih (List.mem_cons_of_mem _ h)
  | case3 s hs =>
    obtain rfl := List.mem_singleton.1 h
    exact count_of_short hs

theorem intercalate_modifyHead {pieces : List (List Char)} (h : pieces ≠ []) (a : Char) :
    r.intercalate (pieces.modifyHead (a :: ·)) = a :: r.intercalate pieces := by
  obtain ⟨piece, more, rfl⟩ := List.exists_cons_of_ne_nil h
  cases more with
  | nil => simp
  | cons next more => simp [List.intercalate_cons_cons]

/-- Whatever replaces the pair, it stands between the pieces. -/
theorem intercalate_cut (d : Digraph) (r s : List Char) :
    r.intercalate (d.cut s) = d.replaceAll r s := by
  fun_induction d.replaceAll r s with
  | case1 a b rest hab ih =>
    rw [cut, if_pos hab, List.intercalate_cons_of_ne_nil (d.cut_ne_nil rest), List.nil_append, ih]
  | case2 a b rest hab ih => rw [cut, if_neg hab, intercalate_modifyHead (d.cut_ne_nil _), ih]
  | case3 s hs =>
    rw [cut, List.intercalate_singleton]
    exact hs

theorem replaceAll_toList (d : Digraph) (s : List Char) : d.replaceAll d.toList s = s := by
  fun_induction d.replaceAll d.toList s with
  | case1 a b rest hab ih =>
    rw [ih, hab.1, hab.2]
    rfl
  | case2 a b rest hab ih => rw [ih]
  | case3 => rfl

end PortableSql.Text.Digraph
