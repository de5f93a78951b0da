import Mathlib.Data.List.TakeDrop
import Mathlib.Tactic.SplitIfs
import PortableSql.Proofs.Json.StringSpelling
import PortableSql.Proofs.Number.Digits
import PortableSql.Proofs.Text.Joined

/-! Texts that spell tokens. A mark is one character and a string shows its own end. Whole numbers
and words end before a character that neither of them has, or with the text. Blanks may stand in
front of every token and behind the last one. The pass over such a text finds its tokens. -/

namespace PortableSql.Json

variable {c : Char} {spelling s rest : List Char} {token : Token} {tokens more : List Token}

/-! ### Whole numbers -/

/-- No zero stands in front of other digits. -/
theorem head?_toDigits {n : Nat} (h : n ≠ 0) : (Nat.toDigits 10 n).head? ≠ some '0' := by
  induction n using Nat.strong_induction_on with
  | _ n ih =>
    rw [Nat.toDigits_eq_if (by decide)]
    split_ifs with hlt
    · have hdigit : Nat.digitChar n ≠ '0' := fun hzero => h (Nat.digitChar_eq_zero.1 hzero)
      simpa using hdigit
    · have hne : n / 10 ≠ 0 := by omega
      rw [List.head?_append, Option.or_of_isSome (by simp [Nat.toDigits_ne_nil])]
      exact ih (n / 10) (by omega) hne

theorem isWholeSpelling_toDigits (n : Nat) : isWholeSpelling (Nat.toDigits 10 n) = true := by
  have hdigits : ∀ c ∈ Nat.toDigits 10 n, c.isDigit = true :=
    fun _ => Number.isDigit_of_mem_toDigits
  by_cases hzero : n = 0
  · rw [hzero]
    decide
  · have hhead := head?_toDigits hzero
    cases htext : Nat.toDigits 10 n with
    | nil => exact absurd htext Nat.toDigits_ne_nil
    | cons first others =>
      rw [htext] at hdigits hhead
      have hfirst : first ≠ '0' := by simpa using hhead
      obtain ⟨hdigit, hothers⟩ := List.forall_mem_cons.1 hdigits
      rw [isWholeSpelling]
      · simp only [ne_eq, hfirst, not_false_eq_true, decide_true, hdigit, Bool.true_and]
        exact List.all_eq_true.2 hothers
      · exact fun h _ => hfirst h

theorem span_isDigit_toDigits (n : Nat) :
    (Nat.toDigits 10 n).span Char.isDigit = (Nat.toDigits 10 n, []) := by
  have hdigits : ∀ c ∈ Nat.toDigits 10 n, c.isDigit = true :=
    fun _ => Number.isDigit_of_mem_toDigits
  have hend : ∀ c ∈ ([] : List Char).head?, c.isDigit = false := by simp
  have hparts := Text.takeWhile_append_of_stop hdigits hend
  rw [List.append_nil] at hparts
  rw [List.span_eq_takeWhile_dropWhile, hparts.1, hparts.2]

theorem numberOfSpelling?_toDigits (n : Nat) :
    numberOfSpelling? (Nat.toDigits 10 n) = some (.int n) := by
  have hsign : ∀ rest, Nat.toDigits 10 n ≠ '-' :: rest := by
    intro rest h
    have hminus : '-' ∈ Nat.toDigits 10 n := by simp [h]
    exact absurd (Number.isDigit_of_mem_toDigits hminus) (by decide)
  rw [numberOfSpelling?]
  · simp only [span_isDigit_toDigits, isWholeSpelling_toDigits, Nat.ofDigitChars_ten_toDigits]
    rfl
  · exact hsign

theorem numberOfSpelling?_minus_toDigits {n : Nat} (h : n ≠ 0) :
    numberOfSpelling? ('-' :: Nat.toDigits 10 n) = some (.int (-n)) := by
  simp only [numberOfSpelling?, span_isDigit_toDigits, isWholeSpelling_toDigits,
    Nat.ofDigitChars_ten_toDigits]
  exact if_neg h

theorem numberOfSpelling?_toString (n : Int) :
    numberOfSpelling? (toString n).toList = some (.int n) := by
  rw [Number.toList_toString_int]
  split_ifs with hneg
  · have hsize : n.natAbs ≠ 0 := by omega
    have hvalue : -(n.natAbs : Int) = n := by omega
    rw [List.singleton_append, numberOfSpelling?_minus_toDigits hsize, hvalue]
  · have hvalue : (n.natAbs : Int) = n := by omega
    rw [List.nil_append, numberOfSpelling?_toDigits, hvalue]

/-! ### Runs of characters -/

theorem reverse_cons_append {α : Type} (a : α) (as others : List α) :
    (a :: as).reverse ++ others = as.reverse ++ a :: others := by
  rw [List.reverse_cons, List.append_assoc, List.singleton_append]

/-- The tokens that are found when the pass goes on with the rest of a text. -/
def Lexing.run (l : Lexing) (s : List Char) : Option (List Token) :=
  (s.foldlM step l).bind finish

namespace Lexing

theorem run_cons (l : Lexing) (c : Char) (s : List Char) :
    l.run (c :: s) = (l.step c).bind fun next => next.run s := by
  rw [run, List.foldlM_cons, Option.bind_eq_bind, Option.bind_assoc]
  rfl

theorem run_append {l next : Lexing} (h : s.foldlM step l = some next) (rest : List Char) :
    l.run (s ++ rest) = next.run rest := by
  rw [run, foldlM_append_of_eq_some h]
  rfl

end Lexing

/-- A kind of token that is read as a run of its characters and checked when the run ends. -/
structure RunKind (member : Char → Bool) (value? : List Char → Option Token)
    (reading : List Char → Reading) : Prop where
  step (tokens : List Token) (spelling : List Char) (c : Char) :
    Lexing.step ⟨tokens, reading spelling⟩ c =
      if member c then some ⟨tokens, reading (c :: spelling)⟩
      else (value? spelling.reverse).bind fun token => Lexing.begin (token :: tokens) c
  finish (tokens : List Token) (spelling : List Char) :
    Lexing.finish ⟨tokens, reading spelling⟩ =
      (value? spelling.reverse).map fun token => (token :: tokens).reverse

theorem numberRun : RunKind isNumberChar numberOfSpelling? .number where
  step _ _ _ := rfl
  finish _ _ := rfl

theorem wordRun : RunKind Char.isAlpha wordOfSpelling? .word where
  step _ _ _ := rfl
  finish _ _ := rfl

namespace RunKind

variable {member : Char → Bool} {value? : List Char → Option Token}
  {reading : List Char → Reading}

theorem foldlM_step (h : RunKind member value? reading) (hs : ∀ c ∈ s, member c = true) :
    s.foldlM Lexing.step ⟨tokens, reading spelling⟩ =
      some ⟨tokens, reading (s.reverse ++ spelling)⟩ := by
  induction s generalizing spelling with
  | nil => rfl
  | cons c s ih =>
    obtain ⟨hc, hs⟩ := List.forall_mem_cons.1 hs
    have hstep : Lexing.step ⟨tokens, reading spelling⟩ c =
        some ⟨tokens, reading (c :: spelling)⟩ := by rw [h.step, if_pos hc]
    rw [foldlM_cons_of_eq_some hstep, ih hs, reverse_cons_append]

/-- A run ends with the text, or before a character that is no member. -/
theorem run_of_stop (h : RunKind member value? reading)
    (hvalue : value? spelling.reverse = some token)
    (hrest : ∀ c ∈ rest.head?, member c = false) :
    Lexing.run ⟨tokens, reading spelling⟩ rest = Lexing.run ⟨token :: tokens, .nothing⟩ rest := by
  cases rest with
  | nil => exact (h.finish tokens spelling).trans (by rw [hvalue]; rfl)
  | cons c rest =>
    have hc : member c = false := hrest c rfl
    have hstep : Lexing.step ⟨tokens, reading spelling⟩ c =
        Lexing.step ⟨token :: tokens, .nothing⟩ c := by
      rw [h.step, hc, hvalue]
      rfl
    rw [Lexing.run_cons, Lexing.run_cons, hstep]

theorem run_append (h : RunKind member value? reading)
    (hbegin : Lexing.begin tokens c = some ⟨tokens, reading [c]⟩) (hs : ∀ c ∈ s, member c = true)
    (hvalue : value? (c :: s) = some token) (hrest : ∀ c ∈ rest.head?, member c = false) :
    Lexing.run ⟨tokens, .nothing⟩ (c :: s ++ rest) =
      Lexing.run ⟨token :: tokens, .nothing⟩ rest := by
  have hspelling : (s.reverse ++ [c]).reverse = c :: s := by simp
  calc Lexing.run ⟨tokens, .nothing⟩ (c :: s ++ rest)
      = Lexing.run ⟨tokens, reading [c]⟩ (s ++ rest) := by
        rw [List.cons_append, Lexing.run_cons, Lexing.step, hbegin, Option.bind_some]
    _ = Lexing.run ⟨tokens, reading (s.reverse ++ [c])⟩ rest :=
        Lexing.run_append (h.foldlM_step hs) rest
    _ = Lexing.run ⟨token :: tokens, .nothing⟩ rest :=
        h.run_of_stop (by rw [hspelling, hvalue]) hrest

end RunKind

/-! ### Texts of tokens -/

/-- The tokens of one character. -/
inductive Mark : Char → Token → Prop
  | beginObject : Mark '\x7b' .beginObject
  | endObject : Mark '\x7d' .endObject
  | beginArray : Mark '[' .beginArray
  | endArray : Mark ']' .endArray
  | colon : Mark ':' .colon
  | comma : Mark ',' .comma

/-- The words that stand for values. -/
inductive Word : List Char → Token → Prop
  | null : Word "null".toList .null
  | bool (b : Bool) : Word (if b then "true" else "false").toList (.bool b)

/-- The characters that may stand between tokens. -/
def blanks : List Char := [' ', '\t', '\n', '\r']

/-- The text goes on with no character that a number or a word could go on with. -/
def Breaks (s : List Char) : Prop := ∀ c ∈ s.head?, isNumberChar c = false ∧ c.isAlpha = false

/-- The text spells the tokens, with blanks anywhere between them. -/
inductive Spells : List Char → List Token → Prop
  | nil : Spells [] []
  | blank {c : Char} {s : List Char} {tokens : List Token} (hc : c ∈ blanks)
      (hs : Spells s tokens) : Spells (c :: s) tokens
  | mark {c : Char} {token : Token} {s : List Char} {tokens : List Token} (hc : Mark c token)
      (hs : Spells s tokens) : Spells (c :: s) (token :: tokens)
  | text (value : String) {s : List Char} {tokens : List Token} (hs : Spells s tokens) :
      Spells ((JsonString.text value).render.toList ++ s) (.string (.text value) :: tokens)
  | number (n : Int) {s : List Char} {tokens : List Token} (hbreaks : Breaks s)
      (hs : Spells s tokens) : Spells ((toString n).toList ++ s) (.int n :: tokens)
  | word {w s : List Char} {token : Token} {tokens : List Token} (hw : Word w token)
      (hbreaks : Breaks s) (hs : Spells s tokens) : Spells (w ++ s) (token :: tokens)

theorem Mark.begin_eq (h : Mark c token) :
    Lexing.begin tokens c = some ⟨token :: tokens, .nothing⟩ := by
  cases h <;> rfl

theorem begin_of_blank (h : c ∈ blanks) :
    Lexing.begin tokens c = some ⟨tokens, .nothing⟩ := by
  simp only [blanks, List.mem_cons, List.not_mem_nil, or_false] at h
  rcases h with rfl | rfl | rfl | rfl <;> rfl

theorem begin_of_number (h : c.isDigit = true ∨ c = '-') :
    Lexing.begin tokens c = some ⟨tokens, .number [c]⟩ := by
  unfold Lexing.begin
  split
  case h_12 =>
    have hnumber : (c.isDigit || c = '-') = true := by simpa using h
    exact if_pos hnumber
  all_goals exact absurd h (by decide)

theorem isNumberChar_of_mem_toString {n : Int} (h : c ∈ (toString n).toList) :
    isNumberChar c = true := by
  rcases Number.mem_toString_int h with rfl | hdigit
  · decide
  · simp [isNumberChar, hdigit]

theorem run_number (n : Int) (hrest : Breaks rest) :
    Lexing.run ⟨tokens, .nothing⟩ ((toString n).toList ++ rest) =
      Lexing.run ⟨.int n :: tokens, .nothing⟩ rest := by
  have hvalue := numberOfSpelling?_toString n
  have hmem : ∀ c ∈ (toString n).toList, isNumberChar c = true := fun _ =>
    isNumberChar_of_mem_toString
  cases htext : (toString n).toList with
  | nil =>
    rw [htext] at hvalue
    cases hvalue
  | cons first others =>
    have hfirst : first = '-' ∨ first.isDigit = true :=
      Number.mem_toString_int (i := n) (by rw [htext]; exact List.mem_cons_self)
    rw [htext] at hvalue hmem
    exact numberRun.run_append (begin_of_number hfirst.symm) (List.forall_mem_cons.1 hmem).2 hvalue
      fun c hc => (hrest c hc).1

theorem Word.run (h : Word s token) (hrest : Breaks rest) :
    Lexing.run ⟨tokens, .nothing⟩ (s ++ rest) = Lexing.run ⟨token :: tokens, .nothing⟩ rest := by
  have hstop : ∀ c ∈ rest.head?, c.isAlpha = false := fun c hc => (hrest c hc).2
  cases h with
  | null => exact wordRun.run_append rfl (List.all_eq_true.1 rfl) rfl hstop
  | bool b =>
    cases b
    · exact wordRun.run_append rfl (List.all_eq_true.1 rfl) rfl hstop
    · exact wordRun.run_append rfl (List.all_eq_true.1 rfl) rfl hstop

/-- The pass finds the tokens that a text spells, behind those that it has found before. -/
theorem Spells.run (h : Spells s more) :
    Lexing.run ⟨tokens, .nothing⟩ s = some (tokens.reverse ++ more) := by
  induction h generalizing tokens with
  | nil => simp [Lexing.run, Lexing.finish]
  | blank hc hs ih => rw [Lexing.run_cons, Lexing.step, begin_of_blank hc, Option.bind_some, ih]
  | mark hc hs ih =>
    rw [Lexing.run_cons, Lexing.step, hc.begin_eq, Option.bind_some, ih, reverse_cons_append]
  | text value hs ih =>
    rw [Lexing.run_append (foldlM_step_render value), ih, reverse_cons_append]
  | number n hbreaks hs ih => rw [run_number n hbreaks, ih, reverse_cons_append]
  | word hw hbreaks hs ih => rw [hw.run hbreaks, ih, reverse_cons_append]

theorem Spells.tokens?_eq (h : Spells s tokens) : tokens? s = some tokens := by
  have hrun : Lexing.run ⟨[], .nothing⟩ s = some ([].reverse ++ tokens) := h.run
  exact hrun

end PortableSql.Json
