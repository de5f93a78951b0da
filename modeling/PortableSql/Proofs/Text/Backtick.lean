import PortableSql.Lexical.Literal
import PortableSql.Lexical.QuoteStyle
import PortableSql.Number.Binary64
import PortableSql.Proofs.ColumnType.OpenPlace
import PortableSql.Proofs.Number.Digits
import PortableSql.Proofs.Text.Joined

/-! Texts without backticks. Quoting, joining and the filling of places put no backtick into a
text, and numbers have none. A portable name has at most the backticks around it, and those
go when the name gets the quotes of another style. -/

namespace PortableSql

def BacktickFree (text : String) : Prop := backtick ∉ text.toList

instance : DecidablePred BacktickFree := fun _ => inferInstanceAs (Decidable (_ ∉ _))

/-- A name that has no backticks, but for one pair that may stand around it. -/
def PortableName (name : String) : Prop :=
  BacktickFree name ∨ ∃ inner, BacktickFree inner ∧ name = "\x60" ++ inner ++ "\x60"

theorem portableName_iff {name : String} :
    PortableName name ↔
      BacktickFree name ∨ ∃ inner ∈ QuoteStyle.unwrap? name.toList, backtick ∉ inner := by
  refine or_congr_right ⟨?_, ?_⟩
  · rintro ⟨inner, hinner, rfl⟩
    exact ⟨inner.toList, QuoteStyle.unwrap?_eq_some_iff.2 (by simp [backtick]), hinner⟩
  · rintro ⟨inner, hunwrap, hinner⟩
    refine ⟨String.ofList inner, by simpa [BacktickFree] using hinner, ?_⟩
    rw [← String.toList_inj, QuoteStyle.unwrap?_eq_some_iff.1 hunwrap]
    simp [backtick]

instance : DecidablePred PortableName := fun _ => decidable_of_iff _ portableName_iff.symm

variable {s t : String} {texts : List String}

@[simp] theorem backtickFree_append :
    BacktickFree (s ++ t) ↔ BacktickFree s ∧ BacktickFree t := by
  simp [BacktickFree]

@[simp] theorem backtickFree_ofList {cs : List Char} :
    BacktickFree (String.ofList cs) ↔ backtick ∉ cs := by
  rw [BacktickFree, String.toList_ofList]

theorem backtickFree_intercalate (h : BacktickFree s) :
    BacktickFree (s.intercalate texts) ↔ ∀ text ∈ texts, BacktickFree text :=
  Text.notMem_intercalate_iff h

theorem backtickFree_join : BacktickFree (String.join texts) ↔ ∀ text ∈ texts, BacktickFree text :=
  Text.notMem_join_iff

theorem backtickFree_ite {p : Prop} [Decidable p] (hs : p → BacktickFree s)
    (ht : ¬ p → BacktickFree t) : BacktickFree (if p then s else t) := by
  split_ifs with h
  · exact hs h
  · exact ht h

section Quoting

/-- Writing some characters twice adds no other character. -/
theorem mem_flatMap_double {mark c : Char} {cs : List Char} :
    c ∈ cs.flatMap (fun x => if x = mark then [x, x] else [x]) ↔ c ∈ cs := by
  rw [List.mem_flatMap]
  constructor
  · rintro ⟨x, hx, hc⟩
    have heq : c = x := by split_ifs at hc <;> simpa using hc
    rwa [heq]
  · intro h
    refine ⟨c, h, ?_⟩
    split_ifs <;> simp

theorem backtickFree_string : BacktickFree (Literal.string s) ↔ BacktickFree s := by
  have hmark : backtick ≠ Literal.quoteMark := by decide
  have hescape : backtick ∉ Literal.escape s.toList ↔ BacktickFree s := not_congr mem_flatMap_double
  rw [Literal.string, Literal.stringChars, backtickFree_ofList]
  simp [hescape, hmark]

namespace QuoteStyle

variable {q : QuoteStyle}

/-- Neither character around names is a backtick. -/
def HasNoBacktick (q : QuoteStyle) : Prop := q.opening ≠ backtick ∧ q.closing ≠ backtick

instance : DecidablePred HasNoBacktick := fun _ => inferInstanceAs (Decidable (_ ∧ _))

theorem backtickFree_quote (hq : q.HasNoBacktick) :
    BacktickFree (q.quote s) ↔ BacktickFree s := by
  have hescape : backtick ∉ q.escape s.toList ↔ BacktickFree s :=
    not_congr mem_flatMap_double
  rw [quote, backtickFree_ofList]
  simp [hescape, hq.1.symm, hq.2.symm]

/-- Only a name that begins with a backtick is taken for a quoted one. -/
theorem requote_of_head?_ne (h : s.toList.head? ≠ some backtick) : q.requote s = s := by
  have hnone : unwrap? s.toList = none := by
    cases hu : unwrap? s.toList with
    | none => rfl
    | some inner => simp [unwrap?_eq_some_iff.1 hu] at h
  rw [requote, hnone]

theorem backtickFree_requote (hq : q.HasNoBacktick) (h : PortableName s) :
    BacktickFree (q.requote s) := by
  rcases portableName_iff.1 h with hfree | ⟨inner, hunwrap, hinner⟩
  · rwa [requote_of_head?_ne fun hc => hfree (List.mem_of_head? hc)]
  · rw [requote, Option.mem_def.1 hunwrap]
    exact (backtickFree_quote hq).2 (backtickFree_ofList.2 hinner)

end QuoteStyle

end Quoting

section Numbers

theorem backtick_notMem_toDigits (n : Nat) : backtick ∉ Nat.toDigits 10 n := fun h =>
  absurd (Number.isDigit_of_mem_toDigits h) (by decide)

theorem backtickFree_nat (n : Nat) : BacktickFree (toString n) := by
  rw [Nat.toString_eq_ofList_toDigits, backtickFree_ofList]
  exact backtick_notMem_toDigits n

theorem backtickFree_int (n : Int) : BacktickFree (toString n) := fun h =>
  absurd (Number.mem_toString_int h) (by decide)

open Number

theorem backtick_notMem_positional (n : Nat) (k : Int) :
    backtick ∉ Binary64.positional n k := by
  have hdigits := backtick_notMem_toDigits n
  have hzero : ∀ m, backtick ∉ List.replicate m '0' := fun m h =>
    absurd (List.eq_of_mem_replicate h) (by decide)
  have htake : ∀ m, backtick ∉ (Nat.toDigits 10 n).take m := fun m h =>
    hdigits (List.mem_of_mem_take h)
  have hdrop : ∀ m, backtick ∉ (Nat.toDigits 10 n).drop m := fun m h =>
    hdigits (List.mem_of_mem_drop h)
  have hmarks : backtick ≠ '.' ∧ backtick ≠ '0' := by decide
  simp only [Binary64.positional]
  split_ifs
  · simp [hdigits, hzero]
  · simp [htake, hdrop, hmarks]
  · simp [hdigits, hzero, hmarks]

theorem backtickFree_binary64 (x : Binary64) : BacktickFree x.render := by
  cases x with
  | nan => decide
  | infinite negative => cases negative <;> decide
  | finite negative mantissa exponent narrowBelow =>
    have hsign : BacktickFree (if negative then "-" else "") := by cases negative <;> decide
    rw [Binary64.render]
    by_cases hzero : mantissa = 0
    · rw [if_pos hzero]
      exact backtickFree_append.2 ⟨hsign, by decide⟩
    · rw [if_neg hzero]
      exact backtickFree_append.2
        ⟨hsign, backtickFree_ofList.2 (backtick_notMem_positional _ _)⟩

end Numbers

section TypeNames

/-- A character of a filled text stood in the text or comes with the replacement. -/
theorem Text.Digraph.mem_of_mem_replaceFirst {e : Text.Digraph} {r cs : List Char} {c : Char}
    (h : c ∈ e.replaceFirst r cs) : c ∈ r ∨ c ∈ cs := by
  fun_induction e.replaceFirst r cs with
  | case1 a b rest hab =>
    rcases List.mem_append.1 h with hr | hrest
    · exact .inl hr
    · exact .inr (by simp [hrest])
  | case2 a b rest hab ih =>
    rcases List.mem_cons.1 h with rfl | hrest
    · exact .inr List.mem_cons_self
    · exact (ih hrest).imp_right (List.mem_cons_of_mem a)
  | case3 => exact .inr h

theorem backtick_notMem_fillPlace {place : Text.Digraph} {value : Option Nat} {cs : List Char}
    (h : backtick ∉ cs) : backtick ∉ fillPlace place value cs := by
  cases value with
  | none => exact h
  | some n =>
    intro hmem
    rcases Text.Digraph.mem_of_mem_replaceFirst hmem with hdigits | hcs
    · exact backtickFree_nat n hdigits
    · exact h hcs

theorem backtickFree_fill {size : Size} (h : BacktickFree s) : BacktickFree (size.fill s) :=
  backtickFree_ofList.2 <| backtick_notMem_fillPlace <| backtick_notMem_fillPlace <|
    backtick_notMem_fillPlace h

end TypeNames

end PortableSql
