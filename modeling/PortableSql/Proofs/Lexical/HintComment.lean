import Mathlib.Data.List.Forall2
import Mathlib.Data.List.TakeWhile
import PortableSql.Proofs.Lexical.BlockComment
import PortableSql.Proofs.Text.Joined

/-! Hints in their comment. A query begins with blanks and the word that opens it, in letters of
either case, and that beginning splits it in one way only. The comment with the hints is put
between the two parts, and the parts are not changed. A scanner that does not nest leaves the
comment at its first closing delimiter. That is the one at its end exactly if no hint holds a
closing delimiter, since the blanks between and around the hints complete none. A hint with a
closing delimiter ends the comment early, and what is behind it becomes part of the query. -/

namespace PortableSql.Comment

open Text

section LeadingWord

variable {letters text sql select rest : List Char} {c : Char}

/-- The character is that small letter or its capital, or a long s for an s. -/
def SameLetter (l c : Char) : Prop := c.toLower = l ∨ l = 's' ∧ c = '\u017f'

/-- The text begins with blanks and the word that opens a query, and the word goes no further. -/
inductive Opens : List Char → List Char → List Char → Prop
  | intro {blanks word rest : List Char} (hblanks : ∀ c ∈ blanks, isBlank c = true)
      (hword : List.Forall₂ SameLetter "select".toList word)
      (hrest : ∀ c ∈ rest.head?, isWordChar c = false) :
      Opens (blanks ++ word ++ rest) (blanks ++ word) rest

theorem Opens.append (h : Opens sql select rest) : select ++ rest = sql := by
  cases h
  rfl

/-- What follows the word may be replaced. -/
theorem Opens.replace (h : Opens sql select rest) (hc : isWordChar c = false) (s : List Char) :
    Opens (select ++ c :: s) select (c :: s) := by
  cases h with
  | intro hblanks hword hrest => exact .intro hblanks hword (by simpa using hc)

theorem startsWithLetters_iff :
    startsWithLetters letters text = true ↔
      List.Forall₂ SameLetter letters (text.take letters.length) := by
  induction letters generalizing text with
  | nil => simp [startsWithLetters]
  | cons l letters ih =>
    cases text with
    | nil => simp [startsWithLetters]
    | cons c text => simp [startsWithLetters, ih, SameLetter]

/-- A blank is no capital. -/
theorem toLower_of_isBlank (h : isBlank c = true) : c.toLower = c := by
  obtain ⟨span, hspan, hlow, hhigh⟩ := inSpans_iff.1 h
  have houtside : span.2 < 65 ∨ 90 < span.1 :=
    (by decide : ∀ s ∈ blankSpans, s.2 < 65 ∨ 90 < s.1) span hspan
  refine dif_neg ?_
  rintro ⟨hge, hle⟩
  have hfrom : 65 ≤ c.toNat := hge
  have hto : c.toNat ≤ 90 := hle
  omega

theorem SameLetter.not_isBlank (h : SameLetter 's' c) : ¬ isBlank c = true := by
  intro hblank
  rcases h with h | ⟨-, rfl⟩
  · rw [toLower_of_isBlank hblank] at h
    subst h
    exact absurd hblank (by decide)
  · exact absurd hblank (by decide)

/-- The blanks end where the word begins. -/
theorem takeWhile_isBlank {blanks word : List Char} (hblanks : ∀ c ∈ blanks, isBlank c = true)
    (hword : List.Forall₂ SameLetter "select".toList word) (rest : List Char) :
    (blanks ++ word ++ rest).takeWhile isBlank = blanks ∧
      (blanks ++ word ++ rest).dropWhile isBlank = word ++ rest := by
  have hletters : "select".toList = ['s', 'e', 'l', 'e', 'c', 't'] := rfl
  rw [hletters] at hword
  cases hword with
  | @cons _ c _ word hfirst hword =>
    have hc := hfirst.not_isBlank
    rw [List.append_assoc]
    exact takeWhile_append_of_stop hblanks (by simpa using hc)

theorem Opens.splitSelect? (h : Opens sql select rest) :
    splitSelect? sql = some (select, rest) := by
  obtain ⟨hblanks, hword, hrest⟩ := h
  rename_i blanks word
  obtain ⟨htake, hdrop⟩ := takeWhile_isBlank hblanks hword rest
  have hlength : word.length = 6 := hword.length_eq.symm
  have hletters : startsWithLetters "select".toList (word ++ rest) = true := by
    refine startsWithLetters_iff.2 ?_
    rwa [← hword.length_eq.symm, List.take_left]
  have hends : rest.head?.any isWordChar = false := by
    rw [Option.any_eq_false]
    simpa using hrest
  simp only [Comment.splitSelect?, htake, hdrop]
  rw [← hlength, List.drop_left, List.take_left, hletters, hends]
  rfl

theorem splitSelect?_eq_some_iff :
    splitSelect? sql = some (select, rest) ↔ Opens sql select rest := by
  constructor
  · intro h
    have happend := splitSelect?_append h
    simp only [Comment.splitSelect?] at h
    split at h
    · next hstarts =>
      cases h
      have hsix : "select".toList.length = 6 := rfl
      rw [Bool.and_eq_true, startsWithLetters_iff, hsix] at hstarts
      have hends : ∀ c ∈ ((sql.dropWhile isBlank).drop 6).head?, isWordChar c = false := by
        intro c hc
        simpa [Option.mem_def.1 hc] using hstarts.2
      have hblanks : ∀ c ∈ sql.takeWhile isBlank, isBlank c = true :=
        fun _ => List.mem_takeWhile_imp
      have hopens := Opens.intro hblanks hstarts.1 hends
      rwa [happend] at hopens
    · cases h
  · exact Opens.splitSelect?

end LeadingWord

section FirstClosing

variable {s text rest : List Char}

/-- A scanner that does not nest looks for the closing delimiter only. -/
theorem readInside_cons_flat (a : Char) (s : List Char) :
    readInside false 0 (a :: s) =
      if a = closing.first ∧ s.head? = some closing.second then some (closing.toList, s.tail)
      else (readInside false 0 s).map (Prod.map (a :: ·) id) := by
  cases s with
  | nil => simp [readInside]
  | cons b s =>
    rw [readInside]
    simp only [List.head?_cons, Option.some.injEq]
    split
    · next h => simp [h, Digraph.toList]
    · next h => simp

/-- It reads a part of the text that holds one closing delimiter. -/
theorem count_of_readInside (h : readInside false 0 s = some (text, rest)) :
    s = text ++ rest ∧ closing.count text = 1 := by
  induction s generalizing text with
  | nil => cases h
  | cons a s ih =>
    rw [readInside_cons_flat] at h
    split at h
    · next hclosing =>
      cases h
      obtain ⟨rest, rfl⟩ := List.head?_eq_some_iff.1 hclosing.2
      rw [hclosing.1]
      exact ⟨rfl, rfl⟩
    · next hclosing =>
      obtain ⟨⟨inner, left⟩, hread, heq⟩ := Option.map_eq_some_iff.1 h
      cases heq
      obtain ⟨hsplit, hcount⟩ := ih hread
      -- the text that was read is not empty, so its first character is the next one
      have hhead : inner.head? = s.head? := by
        cases inner with
        | nil => cases hcount
        | cons b inner => rw [hsplit]; rfl
      refine ⟨by rw [hsplit]; rfl, ?_⟩
      rw [Digraph.count_cons, hhead, if_neg hclosing, hcount]

/-- It stops at a closing delimiter that is the first. -/
theorem readInside_of_count (hend : closing.toList <:+ text) (h : closing.count text = 1)
    (rest : List Char) : readInside false 0 (text ++ rest) = some (text, rest) := by
  obtain ⟨s, rfl⟩ := hend
  induction s with
  | nil => rfl
  | cons a s ih =>
    have hlater : 0 < closing.count (s ++ closing.toList) :=
      Digraph.isInfix_iff_count.1 (List.suffix_append s _).isInfix
    have hhead : (s ++ closing.toList ++ rest).head? = (s ++ closing.toList).head? := by
      cases s <;> rfl
    rw [List.cons_append, Digraph.count_cons] at h
    have hnot : ¬ (a = closing.first ∧ (s ++ closing.toList).head? = some closing.second) := by
      intro hfirst
      rw [if_pos hfirst] at h
      omega
    rw [if_neg hnot, Nat.zero_add] at h
    rw [List.cons_append, List.cons_append, readInside_cons_flat, hhead, if_neg hnot, ih h]
    rfl

end FirstClosing

section Hints

variable {sql : String} {select rest : List Char} {hints : List String}

/-- The comment that holds the hints. -/
def hintComment (hints : List String) : List Char :=
  ("/*+ " ++ " ".intercalate hints ++ " */").toList

/-- The statement without the comment behind its leading word and the blank before that. -/
def withoutHints (s : List Char) : Option (List Char) :=
  match splitSelect? s with
  | some (select, ' ' :: text) => (scan false text).map (select ++ ·.2)
  | _ => none

theorem hinted_of_not_opens (h : ∀ select rest, ¬ Opens sql.toList select rest)
    (hints : List String) : hinted sql hints = sql := by
  have hnone : splitSelect? sql.toList = none :=
    Option.eq_none_iff_forall_ne_some.2 fun (select, rest) hsplit =>
      h select rest (splitSelect?_eq_some_iff.1 hsplit)
  cases hints with
  | nil => rfl
  | cons hint hints => simp only [hinted, hnone]

theorem toList_hinted (h : Opens sql.toList select rest) (hne : hints ≠ []) :
    (hinted sql hints).toList = select ++ ' ' :: (hintComment hints ++ rest) := by
  obtain ⟨hint, hints, rfl⟩ := List.exists_cons_of_ne_nil hne
  simp only [hinted, h.splitSelect?]
  simp [hintComment]

/-- A blank completes no delimiter, so one stands in the joined hints only if in a hint. -/
theorem count_intercalate_eq_zero_iff (hints : List String) :
    closing.count (" ".intercalate hints).toList = 0 ↔
      ∀ hint ∈ hints, ¬ closing.toList <:+: hint.toList := by
  induction hints with
  | nil => simp [Digraph.count]
  | cons hint hints ih =>
    cases hints with
    | nil => simp [Digraph.count_eq_zero_iff]
    | cons next hints =>
      rw [toList_intercalate_cons_cons (c := ' ') rfl,
        Digraph.count_append_cons (by decide) (by decide), Nat.add_eq_zero_iff,
        List.forall_mem_cons]
      exact and_congr Digraph.count_eq_zero_iff ih

/-- What a scanner reads of the comment after its opening delimiter. -/
def hintBody (hints : List String) : List Char :=
  "+ ".toList ++ ((" ".intercalate hints).toList ++ ' ' :: closing.toList)

theorem hintComment_eq (hints : List String) :
    hintComment hints = opening.toList ++ hintBody hints := by
  simp [hintComment, hintBody, opening, closing, Digraph.toList]

theorem closing_suffix_hintBody (hints : List String) : closing.toList <:+ hintBody hints :=
  ⟨"+ ".toList ++ ((" ".intercalate hints).toList ++ [' ']), by simp [hintBody]⟩

theorem count_hintBody (hints : List String) :
    closing.count (hintBody hints) = closing.count (" ".intercalate hints).toList + 1 := by
  rw [hintBody, Digraph.count_append_of_notMem (by decide),
    Digraph.count_append_cons (by decide) (by decide)]
  rfl

theorem scan_hintComment (h : closing.count (" ".intercalate hints).toList = 0)
    (rest : List Char) :
    scan false (hintComment hints ++ rest) = some (hintComment hints, rest) := by
  have hcount : closing.count (hintBody hints) = 1 := by rw [count_hintBody, h]
  rw [hintComment_eq, List.append_assoc, scan_opening,
    readInside_of_count (closing_suffix_hintBody hints) hcount]
  rfl

/-- A scanner that goes on where the query goes on has found no delimiter before the last. -/
theorem count_of_scan {comment : List Char}
    (h : scan false (hintComment hints ++ rest) = some (comment, rest)) :
    closing.count (" ".intercalate hints).toList = 0 := by
  rw [hintComment_eq, List.append_assoc, scan_opening] at h
  obtain ⟨⟨text, left⟩, hread, heq⟩ := Option.map_eq_some_iff.1 h
  cases heq
  obtain ⟨hsplit, hcount⟩ := count_of_readInside hread
  rw [← List.append_cancel_right hsplit, count_hintBody] at hcount
  omega

theorem scan_hintComment_iff (hints : List String) (rest : List Char) :
    scan false (hintComment hints ++ rest) = some (hintComment hints, rest) ↔
      ∀ hint ∈ hints, ¬ closing.toList <:+: hint.toList := by
  rw [← count_intercalate_eq_zero_iff]
  exact ⟨count_of_scan, fun h => scan_hintComment h rest⟩

theorem withoutHints_hinted_iff (h : Opens sql.toList select rest) (hne : hints ≠ []) :
    withoutHints (hinted sql hints).toList = some sql.toList ↔
      ∀ hint ∈ hints, ¬ closing.toList <:+: hint.toList := by
  have hopens := h.replace (by decide +kernel : isWordChar ' ' = false) (hintComment hints ++ rest)
  have hwithout : withoutHints (hinted sql hints).toList =
      (scan false (hintComment hints ++ rest)).map (select ++ ·.2) := by
    rw [toList_hinted h hne, withoutHints, hopens.splitSelect?]
    rfl
  rw [hwithout, ← h.append, ← count_intercalate_eq_zero_iff]
  constructor
  · intro hmap
    obtain ⟨⟨comment, left⟩, hscan, heq⟩ := Option.map_eq_some_iff.1 hmap
    obtain rfl : left = rest := List.append_cancel_left heq
    exact count_of_scan hscan
  · intro hcount
    rw [scan_hintComment hcount]
    rfl

end Hints

end PortableSql.Comment

namespace PortableSql

open Comment

/-- Hints change nothing but a query, and of a query nothing but that their comment stands behind
its leading word. A scanner leaves that comment where the query goes on, and taking the comment
away gives the query back, exactly if no hint holds a closing delimiter. -/
theorem hints_stay_inside_iff (sql : String) (hints : List String) :
    ((hints = [] ∨ ∀ select rest, ¬ Opens sql.toList select rest) → hinted sql hints = sql) ∧
      ∀ select rest, Opens sql.toList select rest → hints ≠ [] →
        select ++ rest = sql.toList ∧
        (hinted sql hints).toList = select ++ ' ' :: (hintComment hints ++ rest) ∧
        (scan false (hintComment hints ++ rest) = some (hintComment hints, rest) ↔
          ∀ hint ∈ hints, ¬ closing.toList <:+: hint.toList) ∧
        (withoutHints (hinted sql hints).toList = some sql.toList ↔
          ∀ hint ∈ hints, ¬ closing.toList <:+: hint.toList) := by
  constructor
  · rintro (rfl | h)
    · rfl
    · exact hinted_of_not_opens h hints
  · intro select rest h hne
    exact ⟨h.append, toList_hinted h hne, scan_hintComment_iff hints rest,
      withoutHints_hinted_iff h hne⟩

/-- The characters of a closing delimiter in two hints, with the blank between them. -/
theorem parted_delimiter_stays_inside :
    let sql := "\n SeLeCt*"
    let hints := ["*", "/"]
    Opens sql.toList "\n SeLeCt".toList ['*'] ∧ hints ≠ [] ∧
      hinted sql hints = "\n SeLeCt /*+ * / */*" ∧
      withoutHints "\n SeLeCt /*+ * / */*".toList = some sql.toList := by
  intro sql hints
  have hopens : Opens sql.toList "\n SeLeCt".toList ['*'] :=
    splitSelect?_eq_some_iff.1 (by decide +kernel)
  have hne : hints ≠ [] := by decide
  have htext : hinted sql hints = "\n SeLeCt /*+ * / */*" := by decide +kernel
  have hwithout := ((hints_stay_inside_iff sql hints).2 _ _ hopens hne).2.2.2.2
    (fun hint _ => by
      rw [← Text.Digraph.occursIn_iff_infix]
      revert hint
      decide)
  rw [htext] at hwithout
  exact ⟨hopens, hne, htext, hwithout⟩

/-- A hint that is a closing delimiter leaves the real one to the query. -/
theorem hint_ends_comment_early :
    Opens "select 1".toList "select".toList " 1".toList ∧
      hinted "select 1" ["*/"] = "select /*+ */ */ 1" ∧
      scan false "/*+ */ */ 1".toList = some ("/*+ */".toList, " */ 1".toList) ∧
      withoutHints "select /*+ */ */ 1".toList = some "select */ 1".toList ∧
      "select */ 1" ≠ "select 1" := by
  have hopens : Opens "select 1".toList "select".toList " 1".toList :=
    splitSelect?_eq_some_iff.1 (by decide +kernel)
  exact ⟨hopens, by decide +kernel, by decide +kernel, by decide +kernel, by decide⟩

end PortableSql
