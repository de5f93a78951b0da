import Mathlib.Tactic.SplitIfs
import PortableSql.Lexical.Comment
import PortableSql.Proofs.Text.Digraph

/-! Block comments as a scanner sees them. A scanner that nests counts the comments that open
inside; one that does not stops at the first closing delimiter. Breaking up the delimiters of
a text leaves none of either kind, since the characters of a pair are no longer neighbours
and no others become so. Between blanks such a text closes with its comment and not before. -/

namespace PortableSql.Comment

open Text

/-- Read on inside a comment that is `depth` deep in others, to the end of the outermost. The
result is what was read and what is left. -/
def readInside (nesting : Bool) : Nat → List Char → Option (List Char × List Char)
  | depth, a :: b :: rest =>
    if a = closing.first ∧ b = closing.second then
      if depth = 0 then some ([a, b], rest)
      else (readInside nesting (depth - 1) rest).map (Prod.map (a :: b :: ·) id)
    else if nesting ∧ a = opening.first ∧ b = opening.second then
      (readInside nesting (depth + 1) rest).map (Prod.map (a :: b :: ·) id)
    else (readInside nesting depth (b :: rest)).map (Prod.map (a :: ·) id)
  | _, _ => none

/-- Read a comment at the beginning of a text. -/
def scan (nesting : Bool) : List Char → Option (List Char × List Char)
  | a :: b :: rest =>
    if a = opening.first ∧ b = opening.second then
      (readInside nesting 0 rest).map (Prod.map (a :: b :: ·) id)
    else none
  | _ => none

section Escape

variable {d e : Digraph} {s : List Char}

theorem head?_replaceAll_broken (d : Digraph) (s : List Char) :
    (d.replaceAll (broken d) s).head? = s.head? := by
  fun_cases d.replaceAll (broken d) s with
  | case1 a b rest hab => simp [broken, hab.1]
  | case2 a b rest hab => rfl
  | case3 => rfl

/-- A broken pair can begin a pair with its last character only. -/
theorem count_broken_append (hfirst : e.first ≠ '\\') (hsecond : e.second ≠ '\\')
    (s : List Char) :
    e.count (broken d ++ s) =
      (if d.second = e.first ∧ s.head? = some e.second then 1 else 0) + e.count s := by
  simp [broken, Digraph.count_cons, hfirst.symm, hsecond.symm]

/-- Breaking up one pair takes all its occurrences away and leaves those of any other. -/
theorem count_replaceAll_broken (hd : d.first ≠ d.second) (hfirst : e.first ≠ '\\')
    (hsecond : e.second ≠ '\\') (s : List Char) :
    e.count (d.replaceAll (broken d) s) = if e = d then 0 else e.count s := by
  have heq : e = d ↔ d.first = e.first ∧ d.second = e.second := by
    cases d; cases e; simp [eq_comm]
  fun_induction d.replaceAll (broken d) s with
  | case1 a b rest hab ih =>
    obtain ⟨rfl, rfl⟩ := hab
    rw [count_broken_append hfirst hsecond, head?_replaceAll_broken, ih, Digraph.count_cons,
      Digraph.count_cons]
    by_cases he : e = d
    · subst he
      simp [hd.symm]
    · simp [he, ← heq]
  | case2 a b rest hab ih =>
    rw [Digraph.count_cons, Digraph.count_cons, ih, head?_replaceAll_broken]
    by_cases he : e = d
    · subst he
      simp [hab]
    · simp [he]
  | case3 s hs => rw [Digraph.count_of_short hs, ite_self]

/-- Neither delimiter is left. -/
theorem count_escapeChars (s : List Char) :
    opening.count (escapeChars s) = 0 ∧ closing.count (escapeChars s) = 0 := by
  have hopening : opening.first ≠ '\\' ∧ opening.second ≠ '\\' := by decide
  have hclosing : closing.first ≠ '\\' ∧ closing.second ≠ '\\' := by decide
  have hne : closing ≠ opening := by decide
  constructor
  · rw [escapeChars, count_replaceAll_broken (by decide) hopening.1 hopening.2, if_pos rfl]
  · rw [escapeChars, count_replaceAll_broken (by decide) hclosing.1 hclosing.2, if_neg hne,
      count_replaceAll_broken (by decide) hclosing.1 hclosing.2, if_pos rfl]

theorem escapeChars_of_count (hopening : opening.count s = 0) (hclosing : closing.count s = 0) :
    escapeChars s = s := by
  have hnone : ∀ d : Digraph, d.count s = 0 → d.occursIn s = false := fun d hd =>
    Bool.eq_false_iff.2 fun h => absurd (Digraph.occursIn_iff_count.1 h) (by omega)
  rw [escapeChars, Digraph.replaceAll_of_not_occursIn (hnone _ hclosing),
    Digraph.replaceAll_of_not_occursIn (hnone _ hopening)]

end Escape

section Scan

variable {nesting : Bool} {depth : Nat} {a : Char} {s : List Char}

theorem scan_opening (nesting : Bool) (s : List Char) :
    scan nesting (opening.toList ++ s) =
      (readInside nesting 0 s).map (Prod.map (opening.toList ++ ·) id) := rfl

/-- A character that begins no delimiter is read by itself. -/
theorem readInside_cons (hopening : ¬ (a = opening.first ∧ s.head? = some opening.second))
    (hclosing : ¬ (a = closing.first ∧ s.head? = some closing.second)) :
    readInside nesting depth (a :: s) =
      (readInside nesting depth s).map (Prod.map (a :: ·) id) := by
  cases s with
  | nil => rfl
  | cons b rest =>
    rw [List.head?_cons, Option.some.injEq] at hopening hclosing
    rw [readInside, if_neg hclosing, if_neg fun h => hopening h.2]

/-- A pair that does not stand in a text does not begin in it before a blank either. -/
theorem not_pair_of_count {d : Digraph} (hd : d.second ≠ ' ') (h : d.count (a :: s) = 0)
    (rest : List Char) :
    ¬ (a = d.first ∧ (s ++ ' ' :: rest).head? = some d.second) := by
  rintro ⟨rfl, hhead⟩
  rw [Digraph.count_cons] at h
  cases s with
  | nil => exact hd (Option.some.inj hhead).symm
  | cons b s =>
    have hb : b = d.second := Option.some.inj hhead
    simp [hb] at h

/-- A text without delimiters ends at the closing delimiter behind it. -/
theorem readInside_append (hopening : opening.count s = 0) (hclosing : closing.count s = 0)
    (rest : List Char) :
    readInside nesting 0 (s ++ ' ' :: (closing.toList ++ rest)) =
      some (s ++ ' ' :: closing.toList, rest) := by
  induction s with
  | nil => cases nesting <;> rfl
  | cons a s ih =>
    have hrest : opening.count s = 0 ∧ closing.count s = 0 := by
      rw [Digraph.count_cons, Nat.add_eq_zero_iff] at hopening hclosing
      exact ⟨hopening.2, hclosing.2⟩
    rw [List.cons_append, readInside_cons (not_pair_of_count (by decide) hopening _)
      (not_pair_of_count (by decide) hclosing _), ih hrest.1 hrest.2]
    rfl

end Scan

theorem toList_prepend {comment : String} (h : comment ≠ "") (sql : String) :
    (prepend sql comment).toList =
      opening.toList ++ ((' ' :: escapeChars comment.toList) ++
        ' ' :: (closing.toList ++ (" " ++ sql).toList)) := by
  rw [prepend, if_neg h, escape]
  simp [opening, closing, Digraph.toList]

end PortableSql.Comment

namespace PortableSql

open Comment

/-- An escaped comment holds no delimiter, and escaping it again changes nothing. A statement
with a comment therefore begins with that comment and nothing else, for scanners that nest
and for those that do not. -/
theorem escaped_comment_ends_before_statement (sql comment : String) :
    ¬ opening.toList <:+: (escape comment).toList ∧
      ¬ closing.toList <:+: (escape comment).toList ∧
      escape (escape comment) = escape comment ∧
      (comment ≠ "" → ∀ nesting, scan nesting (prepend sql comment).toList =
        some (("/* " ++ escape comment ++ " */").toList, (" " ++ sql).toList)) := by
  obtain ⟨hopening, hclosing⟩ := count_escapeChars comment.toList
  have htext : (escape comment).toList = escapeChars comment.toList := String.toList_ofList
  refine ⟨?_, ?_, ?_, ?_⟩
  · rw [htext, ← Text.Digraph.occursIn_iff_infix, Text.Digraph.occursIn_iff_count]
    omega
  · rw [htext, ← Text.Digraph.occursIn_iff_infix, Text.Digraph.occursIn_iff_count]
    omega
  · rw [escape, htext, escapeChars_of_count hopening hclosing, escape]
  · intro h nesting
    have hblank : opening.count (' ' :: escapeChars comment.toList) = 0 ∧
        closing.count (' ' :: escapeChars comment.toList) = 0 := by
      have hfirst : ' ' ≠ opening.first ∧ ' ' ≠ closing.first := by decide
      simp [Text.Digraph.count_cons, hopening, hclosing, hfirst]
    rw [toList_prepend h, scan_opening, readInside_append hblank.1 hblank.2]
    simp [htext, opening, closing, Text.Digraph.toList]

/-- Delimiters that share a character, next to each other and at both ends. -/
theorem shared_delimiters_escaped :
    "*/*/" ≠ "" ∧ scan true (prepend "select 1" "*/*/").toList =
      some ("/* *\\/\\*\\/ */".toList, " select 1".toList) := by
  have hne : "*/*/" ≠ "" := by decide
  have hescape : escape "*/*/" = "*\\/\\*\\/" := by decide +kernel
  have h := (escaped_comment_ends_before_statement "select 1" "*/*/").2.2.2 hne true
  rw [hescape] at h
  exact ⟨hne, h⟩

end PortableSql
