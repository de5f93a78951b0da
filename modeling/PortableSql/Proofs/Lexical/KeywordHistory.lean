import Mathlib.Data.String.Basic
import PortableSql.Lexical.KeywordSet
import PortableSql.Proofs.Text.LowerCase

/-! What a history of submissions makes of a set of reserved words. A word is submitted alone, in
a list, or as a piece of the text that a database reports, and it is kept trimmed and in small
letters unless it is blank. So the set knows the submitted words in any letter case, and neither
their order nor their repetition leaves a trace in it. -/

namespace PortableSql

namespace Text

variable {separator : Char} {s : List Char}

theorem splitOn_eq_splitOn (separator : Char) (s : List Char) :
    splitOn separator s = s.splitOn separator := by
  induction s with
  | nil => rw [splitOn, List.splitOn_nil]
  | cons c rest ih =>
    have hne : rest.splitOn separator ≠ [] := List.splitOn_ne_nil _ _
    obtain ⟨piece, more, hmore⟩ := List.exists_cons_of_ne_nil hne
    have hcons : (c :: rest).splitOn separator =
        if c == separator then [] :: piece :: more else (c :: piece) :: more := by
      rw [← List.modifyHead_cons (f := List.cons c), ← hmore]
      exact List.splitOnP_cons_eq_if_modifyHead c rest
    rw [splitOn, ih, hmore, hcons]
    simp

/-- The one way to cut a text into pieces without the separator. -/
theorem splitOn_eq_iff {pieces : List (List Char)} :
    splitOn separator s = pieces ↔
      pieces ≠ [] ∧ (∀ piece ∈ pieces, separator ∉ piece) ∧ [separator].intercalate pieces = s := by
  constructor
  · rintro rfl
    refine ⟨splitOn_ne_nil separator s, fun piece => not_mem_of_mem_splitOn, ?_⟩
    rw [splitOn_eq_splitOn, List.intercalate_splitOn]
  · rintro ⟨hne, hfree, rfl⟩
    rw [splitOn_eq_splitOn, List.splitOn_intercalate separator hfree hne]

end Text

namespace KeywordSet

/-- The words that a change submits, as they are written. -/
inductive Change.Submits : Change → String → Prop
  | alone {word : String} : Submits (.register word) word
  | listed {words : List String} {word : String} (h : word ∈ words) :
      Submits (.registerAll words) word
  | reported {pieces : List String} {word : String} (cut : ∀ piece ∈ pieces, ',' ∉ piece.toList)
      (h : word ∈ pieces) : Submits (.report (",".intercalate pieces)) word

/-- The word is among those that the changes submit. -/
def Submitted (changes : List Change) (word : String) : Prop := ∃ c ∈ changes, c.Submits word

/-- The form in which a submitted word is kept; a blank word has none. -/
def KeptAs (word form : String) : Prop := Text.trim word ≠ "" ∧ form = Text.lower (Text.trim word)

/-- What a set is started from. -/
inductive Seed
  | nothing
  | standard

namespace Seed

def set : Seed → KeywordSet
  | nothing => empty
  | standard => sql2003

def words : Seed → List String
  | nothing => []
  | standard => sql2003Reserved

end Seed

variable {k : KeywordSet} {c : Change} {changes : List Change} {seed : Seed}
  {word form text : String} {words : List String}

section Submissions

theorem reportedWords_eq_iff {pieces : List String} :
    reportedWords text = pieces ↔
      pieces ≠ [] ∧ (∀ piece ∈ pieces, ',' ∉ piece.toList) ∧ ",".intercalate pieces = text := by
  have hmap : reportedWords text = pieces ↔
      Text.splitOn ',' text.toList = pieces.map String.toList := by
    rw [reportedWords]
    constructor
    · rintro rfl
      simp [List.map_map, Function.comp_def, String.toList_ofList]
    · intro h
      simp [h, List.map_map, Function.comp_def, String.ofList_toList]
  have hjoined : [','].intercalate (pieces.map String.toList) = text.toList ↔
      ",".intercalate pieces = text := by
    rw [← String.toList_inj, String.toList_intercalate]
    rfl
  rw [hmap, Text.splitOn_eq_iff, hjoined, List.forall_mem_map, ne_eq, List.map_eq_nil_iff]

theorem submits_report_iff : Change.Submits (.report text) word ↔ word ∈ reportedWords text := by
  constructor
  · intro h
    cases h with
    | reported cut hmem =>
      rwa [reportedWords_eq_iff.2 ⟨List.ne_nil_of_mem hmem, cut, rfl⟩]
  · intro h
    obtain ⟨-, cut, hjoined⟩ := reportedWords_eq_iff.1 (Eq.refl (reportedWords text))
    rw [← hjoined]
    exact .reported cut h

theorem submitted_cons :
    Submitted (c :: changes) word ↔ c.Submits word ∨ Submitted changes word := by
  simp [Submitted]

end Submissions

section Membership

theorem mem_words_insert : form ∈ (k.insert word).words ↔ KeptAs word form ∨ form ∈ k.words := by
  rw [insert]
  split_ifs with hblank
  · simp [KeptAs, hblank]
  · rw [Std.TreeSet.mem_insert, Std.LawfulEqCmp.compare_eq_iff_eq]
    simp [KeptAs, hblank, eq_comm]

theorem mem_words_insertAll :
    form ∈ (k.insertAll words).words ↔ (∃ word ∈ words, KeptAs word form) ∨ form ∈ k.words := by
  induction words generalizing k with
  | nil => simp [insertAll]
  | cons word words ih =>
    rw [insertAll, List.foldl_cons, ← insertAll, ih, mem_words_insert, List.exists_mem_cons_iff,
      or_assoc, or_left_comm]

theorem mem_words_apply :
    form ∈ (c.apply k).words ↔ (∃ word, c.Submits word ∧ KeptAs word form) ∨ form ∈ k.words := by
  cases c with
  | register word =>
    have hsubmits : ∀ w, Change.Submits (.register word) w ↔ w = word :=
      fun w => ⟨fun h => by cases h; rfl, fun h => h ▸ .alone⟩
    rw [Change.apply, mem_words_insert]
    simp [hsubmits]
  | registerAll words =>
    have hsubmits : ∀ w, Change.Submits (.registerAll words) w ↔ w ∈ words :=
      fun w => ⟨fun h => by cases h; assumption, .listed⟩
    rw [Change.apply, mem_words_insertAll]
    simp [hsubmits]
  | report text =>
    rw [Change.apply, insertReported, mem_words_insertAll]
    simp [submits_report_iff]

theorem mem_words_run :
    form ∈ (run changes k).words ↔
      (∃ word, Submitted changes word ∧ KeptAs word form) ∨ form ∈ k.words := by
  induction changes generalizing k with
  | nil => simp [Submitted]
  | cons c changes ih =>
    rw [run_cons, ih, mem_words_apply]
    simp only [submitted_cons, or_and_right, exists_or]
    rw [or_assoc, or_left_comm]

theorem contains_iff : k.contains word = true ↔ Text.lower word ∈ k.words :=
  Std.TreeSet.contains_iff_mem

theorem mem_toList : form ∈ k.toList ↔ form ∈ k.words := Std.TreeSet.mem_toList

theorem toList_pairwise (k : KeywordSet) : k.toList.Pairwise (· < ·) :=
  Std.TreeSet.ordered_toList.imp compare_lt_iff_lt.1

/-- Sets of the same words list them alike. -/
theorem toList_eq_of_forall_mem {other : KeywordSet}
    (h : ∀ form, form ∈ other.words ↔ form ∈ k.words) : other.toList = k.toList :=
  (Std.TreeSet.Equiv.of_forall_mem_iff h).toList_eq

end Membership

section Standard

theorem forall_mem_ofList_cons {P : List Char → Prop} {s : List Char} (h : P s)
    (rest : ∀ word ∈ words, P word.toList) :
    ∀ word ∈ String.ofList s :: words, P word.toList :=
  List.forall_mem_cons.2 ⟨by rwa [String.toList_ofList], rest⟩

/-- No word of the standard is empty or padded. -/
theorem stripped_of_mem_sql2003Reserved :
    ∀ word ∈ sql2003Reserved, word.toList ≠ [] ∧ Text.Stripped word.toList := by
  unfold sql2003Reserved
  -- one literal at a time, since taking a whole text apart is slow to evaluate
  repeat' first
    | exact List.forall_mem_nil _
    | refine forall_mem_ofList_cons (P := fun s => s ≠ [] ∧ Text.Stripped s) ?_ ?_
    | decide

theorem keptAs_of_mem_sql2003Reserved (h : word ∈ sql2003Reserved) :
    KeptAs word form ↔ form = Text.lower word := by
  obtain ⟨hne, hstripped⟩ := stripped_of_mem_sql2003Reserved word h
  have htrim : Text.trim word = word := by
    rw [Text.trim, hstripped.strip_eq, String.ofList_toList]
  rw [KeptAs, htrim, and_iff_right (mt String.toList_eq_nil_iff.2 hne)]

theorem mem_words_seed : form ∈ seed.set.words ↔ ∃ word ∈ seed.words, form = Text.lower word := by
  cases seed with
  | nothing => simp [Seed.set, Seed.words, empty]
  | standard =>
    rw [Seed.set, sql2003, mem_words_insertAll, or_iff_left (by simp [empty])]
    exact exists_congr fun word => and_congr_right keptAs_of_mem_sql2003Reserved

end Standard

/-- A kept form is neither empty nor padded, and it is in small letters. -/
theorem KeptAs.normal (h : KeptAs word form) :
    form ≠ "" ∧ Text.trim form = form ∧ Text.lower form = form := by
  obtain ⟨hne, rfl⟩ := h
  exact ⟨mt Text.lower_eq_empty_iff.1 hne, Text.trim_lower_trim word, Text.lower_lower _⟩

theorem normal_of_mem_run (h : form ∈ (run changes seed.set).words) :
    form ≠ "" ∧ Text.trim form = form ∧ Text.lower form = form := by
  rcases mem_words_run.1 h with ⟨word, -, hkept⟩ | hseed
  · exact hkept.normal
  · cases seed with
    | nothing => simp [Seed.set, empty] at hseed
    | standard =>
      obtain ⟨word, hword, hform⟩ := mem_words_seed.1 hseed
      exact ((keptAs_of_mem_sql2003Reserved hword).2 hform).normal

/-- A set that is started from nothing or from the standard knows, in any letter case, the words
it was started from and the submitted words that are not blank. It lists just their trimmed forms
in small letters, each once and in order, and the list is the same for every history that submits
the same words. -/
theorem words_read_history (seed : Seed) (changes : List Change) :
    let k := run changes seed.set
    (∀ w, k.contains w = true ↔
        (∃ word ∈ seed.words, Text.lower w = Text.lower word) ∨
          ∃ word, Submitted changes word ∧ Text.trim word ≠ "" ∧
            Text.lower w = Text.lower (Text.trim word)) ∧
      (∀ form, form ∈ k.toList ↔
        (∃ word ∈ seed.words, form = Text.lower word) ∨
          ∃ word, Submitted changes word ∧ Text.trim word ≠ "" ∧
            form = Text.lower (Text.trim word)) ∧
      (∀ others, (∀ word, Submitted others word ↔ Submitted changes word) →
        (run others seed.set).toList = k.toList) ∧
      (∀ form ∈ k.toList, form ≠ "" ∧ Text.trim form = form ∧ Text.lower form = form) ∧
      k.toList.Pairwise (· < ·) := by
  intro k
  have hwords (form : String) : form ∈ k.words ↔
      (∃ word ∈ seed.words, form = Text.lower word) ∨
        ∃ word, Submitted changes word ∧ KeptAs word form := by
    rw [mem_words_run, mem_words_seed, or_comm]
  refine ⟨fun w => ?_, fun form => ?_, fun others h => ?_, fun form hform => ?_, toList_pairwise k⟩
  · rw [contains_iff, hwords]
    rfl
  · rw [mem_toList, hwords]
    rfl
  · exact toList_eq_of_forall_mem fun form => by simp only [k, mem_words_run, h]
  · exact normal_of_mem_run (mem_toList.1 hform)

end KeywordSet

end PortableSql
