import Mathlib.Data.List.Forall2
import Mathlib.Data.List.MinMax
import Mathlib.Order.Nat
import PortableSql.Expression.FunctionTable
import PortableSql.Proofs.Text.Joined

/-! The grammar of patterns, apart from the two scans that follow it. A pattern is a
sequence of characters of text and of question marks, each of which takes all the digits
that follow it. Every pattern has one reading. It is the one that filling cuts the
characters into, and the search through the bytes finds the largest live place of it. So
the arity of a pattern is right for what filling does: with as many arguments every live
place becomes its argument and all else stands, while with fewer the first place without
an argument stands as it was written. -/

namespace PortableSql

/-- The pieces that a text falls into. -/
inductive Reads : List Char → List PatternPiece → Prop
  | nil : Reads [] []
  | text {c : Char} {rest : List Char} {pieces : List PatternPiece} (hc : c ≠ '?')
      (h : Reads rest pieces) : Reads (c :: rest) (.text c :: pieces)
  /-- A question mark leaves no digit behind. -/
  | mark {digits rest : List Char} {pieces : List PatternPiece} (hdigits : ∀ d ∈ digits, d.isDigit)
      (hrest : ∀ c ∈ rest.head?, ¬ c.isDigit) (h : Reads rest pieces) :
      Reads ('?' :: digits ++ rest) (.mark digits :: pieces)

namespace PatternPiece

/-- The piece is the place of argument `n`: its digits spell a positive machine word. -/
def Live (p : PatternPiece) (n : Nat) : Prop :=
  ∃ digits, p = .mark digits ∧ digits ≠ [] ∧ Nat.ofDigitChars 10 digits 0 = n ∧ 1 ≤ n ∧
    n < UInt64.size

/-- What a piece becomes when no argument is missing. The pieces that are no places become the
characters that they were read from. -/
inductive Filled (arguments : List String) : PatternPiece → List Char → Prop
  | argument {p : PatternPiece} {n : Nat} {a : String} (live : p.Live n)
      (h : arguments[n - 1]? = some a) : Filled arguments p a.toList
  | text (c : Char) : Filled arguments (.text c) [c]
  | mark {digits : List Char} (h : ∀ n, ¬ Live (.mark digits) n) :
      Filled arguments (.mark digits) ('?' :: digits)

variable {p : PatternPiece} {n : Nat} {arguments : List String}

theorem wordOfDigits?_eq_some_iff {digits : List Char} :
    wordOfDigits? digits = some n ↔
      digits ≠ [] ∧ Nat.ofDigitChars 10 digits 0 = n ∧ n < UInt64.size := by
  simp only [wordOfDigits?, Option.ite_none_right_eq_some, Option.some.injEq]
  constructor
  · rintro ⟨⟨hne, hlt⟩, rfl⟩
    exact ⟨hne, rfl, hlt⟩
  · rintro ⟨hne, rfl, hlt⟩
    exact ⟨⟨hne, hlt⟩, rfl⟩

theorem ordinal?_eq_some_iff : p.ordinal? = some n ↔ p.Live n := by
  cases p with
  | text c => simp [ordinal?, Live]
  | mark digits =>
    simp only [ordinal?, Option.filter_eq_some_iff, wordOfDigits?_eq_some_iff, decide_eq_true_eq,
      Live, mark.injEq, exists_eq_left']
    constructor
    · rintro ⟨⟨hne, hvalue, hlt⟩, hpos⟩
      exact ⟨hne, hvalue, hpos, hlt⟩
    · rintro ⟨hne, hvalue, hpos, hlt⟩
      exact ⟨⟨hne, hvalue, hlt⟩, hpos⟩

theorem Live.pos (h : p.Live n) : 1 ≤ n := by
  obtain ⟨_, _, _, _, hpos, _⟩ := h
  exact hpos

theorem fill_of_live (h : p.Live n) :
    p.fill arguments = (arguments[n - 1]?.map String.toList).getD p.spelling := by
  rw [fill, ordinal?_eq_some_iff.2 h, Option.bind_some]
  cases arguments[n - 1]? <;> rfl

theorem fill_of_not_live (h : ∀ n, ¬ p.Live n) : p.fill arguments = p.spelling := by
  cases ho : p.ordinal? with
  | none => rw [fill, ho, Option.bind_none]
  | some n => exact absurd (ordinal?_eq_some_iff.1 ho) (h n)

/-- Where the argument of a place is there, the piece is filled. -/
theorem filled_fill (h : ∀ n, p.Live n → n ≤ arguments.length) :
    Filled arguments p (p.fill arguments) := by
  by_cases hlive : ∃ n, p.Live n
  · obtain ⟨n, hn⟩ := hlive
    have hpos := hn.pos
    have hle := h n hn
    have hget : arguments[n - 1]? = some arguments[n - 1] := List.getElem?_eq_getElem (by omega)
    rw [fill_of_live hn, hget]
    exact .argument hn hget
  · rw [not_exists] at hlive
    rw [fill_of_not_live hlive]
    cases p with
    | text c => exact .text c
    | mark digits => exact .mark hlive

theorem fill_of_missing {digits : List Char} (h : Live (.mark digits) n)
    (hn : arguments.length < n) : fill arguments (.mark digits) = '?' :: digits := by
  rw [fill_of_live h, List.getElem?_eq_none (by omega)]
  rfl

/-- An argument past the place of a piece does not matter to it. -/
theorem fill_take {m : Nat} (h : ∀ n, p.Live n → n ≤ m) :
    p.fill (arguments.take m) = p.fill arguments := by
  by_cases hlive : ∃ n, p.Live n
  · obtain ⟨n, hn⟩ := hlive
    have hpos := hn.pos
    have hle := h n hn
    rw [fill_of_live hn, fill_of_live hn, List.getElem?_take_of_lt (by omega)]
  · rw [not_exists] at hlive
    rw [fill_of_not_live hlive, fill_of_not_live hlive]

end PatternPiece

open PatternPiece

theorem reads_piecesFrom (digits : Option (List Char)) (pattern : List Char)
    (h : ∀ ds ∈ digits, ∀ d ∈ ds, d.isDigit) :
    Reads ((match digits with | some ds => '?' :: ds.reverse | none => []) ++ pattern)
      (piecesFrom digits pattern) := by
  fun_induction piecesFrom digits pattern with
  | case1 => exact .nil
  | case2 ds => exact .mark (by simpa using h) (by simp) .nil
  | case3 rest ih => simpa using ih (by simp)
  | case4 c rest hc ih => exact .text hc (ih (by simp))
  | case5 ds c rest hc ih =>
    have hdigits : ∀ d ∈ c :: ds, d.isDigit := List.forall_mem_cons.2 ⟨hc, h ds rfl⟩
    simpa using ih (by simpa using hdigits)
  | case6 ds c rest hc ihMark ihText =>
    refine .mark (by simpa using h) (by simpa using hc) ?_
    by_cases hmark : c = '?'
    · rw [if_pos hmark]
      simpa [hmark] using ihMark (by simp)
    · rw [if_neg hmark]
      exact .text hmark (ihText (by simp))

theorem piecesFrom_digits {digits rest : List Char} (hdigits : ∀ d ∈ digits, d.isDigit)
    (hrest : ∀ c ∈ rest.head?, ¬ c.isDigit) (before : List Char) :
    piecesFrom (some before) (digits ++ rest) =
      .mark (before.reverse ++ digits) :: piecesFrom none rest := by
  induction digits generalizing before with
  | nil =>
    cases rest with
    | nil => simp [piecesFrom]
    | cons c rest =>
      have hc : c.isDigit = false := by simpa using hrest c rfl
      simp [piecesFrom, hc]
  | cons d digits ih =>
    obtain ⟨hd, hdigits⟩ := List.forall_mem_cons.1 hdigits
    rw [List.cons_append, piecesFrom, if_pos hd, ih hdigits]
    simp

theorem reads_iff {pattern : List Char} {pieces : List PatternPiece} :
    Reads pattern pieces ↔ pieces = patternPieces pattern := by
  constructor
  · intro h
    induction h with
    | nil => rfl
    | text hc h ih => rw [ih, patternPieces, patternPieces, piecesFrom, if_neg hc]
    | mark hdigits hrest h ih =>
      rw [ih, patternPieces, List.cons_append, patternPieces, piecesFrom, if_pos rfl,
        piecesFrom_digits hdigits hrest]
      rfl
  · rintro rfl
    exact reads_piecesFrom none pattern (by simp)

/-- The largest live place of a reading, zero if no place is live. -/
structure HasArity (pieces : List PatternPiece) (arity : Nat) : Prop where
  bound : ∀ p ∈ pieces, ∀ n, p.Live n → n ≤ arity
  attained : arity ≠ 0 → ∃ p ∈ pieces, p.Live arity

theorem mem_ordinals {pieces : List PatternPiece} {n : Nat} :
    n ∈ pieces.filterMap ordinal? ↔ ∃ p ∈ pieces, p.Live n := by
  simp [List.mem_filterMap, ordinal?_eq_some_iff]

theorem foldr_max_mem {ns : List Nat} (h : ns.foldr max 0 ≠ 0) : ns.foldr max 0 ∈ ns := by
  induction ns with
  | nil => exact absurd rfl h
  | cons m ns ih =>
    rw [List.foldr_cons] at h ⊢
    rcases Nat.le_total m (ns.foldr max 0) with hle | hle
    · rw [Nat.max_eq_right hle] at h ⊢
      exact List.mem_cons_of_mem _ (ih h)
    · rw [Nat.max_eq_left hle]
      exact List.mem_cons_self

theorem foldr_max_ordinals_cons (p : PatternPiece) (pieces : List PatternPiece) :
    ((p :: pieces).filterMap ordinal?).foldr max 0 =
      max (p.ordinal?.getD 0) ((pieces.filterMap ordinal?).foldr max 0) := by
  cases h : p.ordinal? with
  | none => rw [List.filterMap_cons_none h, Option.getD_none, Nat.zero_max]
  | some n => rw [List.filterMap_cons_some h, List.foldr_cons, Option.getD_some]

/-- A zero is a word and no live place, which makes no difference to a maximum. -/
theorem elim_wordOfDigits? (largest : Nat) (digits : List Char) :
    (wordOfDigits? digits).elim largest (max largest) =
      max largest ((ordinal? (.mark digits)).getD 0) := by
  rw [ordinal?]
  cases wordOfDigits? digits with
  | none => exact (Nat.max_zero largest).symm
  | some n =>
    cases n with
    | zero => rfl
    | succ n => rfl

/-- The search through the bytes of a text finds the places of its reading. -/
theorem Reads.largestFrom?_utf8 {s : List Char} {pieces : List PatternPiece} (h : Reads s pieces)
    (largest : Nat) :
    largestFrom? largest (Text.utf8 s) =
      some (max largest ((pieces.filterMap ordinal?).foldr max 0)) := by
  induction h generalizing largest with
  | nil => rw [Text.utf8, List.flatMap_nil, largestFrom?]; simp
  | text hc _ ih => rw [largestFrom?_text hc, ih, List.filterMap_cons_none rfl]
  | @mark digits rest pieces hdigits hrest _ ih =>
    obtain ⟨htaken, hleft⟩ := Text.takeWhile_append_of_stop hdigits (by simpa using hrest)
    rw [List.cons_append, largestFrom?_mark, htaken, hleft, ih, elim_wordOfDigits?,
      foldr_max_ordinals_cons, Nat.max_assoc]

theorem largestOrdinal_eq_foldr (pattern : String) :
    largestOrdinal pattern =
      ((patternPieces pattern.toList).filterMap ordinal?).foldr max 0 := by
  have hread : Reads pattern.toList (patternPieces pattern.toList) := reads_iff.2 rfl
  rw [← Option.some_inj, largestOrdinal, Option.some_get, Text.data_toUTF8,
    hread.largestFrom?_utf8, Nat.zero_max]

theorem hasArity_largestOrdinal (pattern : String) :
    HasArity (patternPieces pattern.toList) (largestOrdinal pattern) := by
  rw [largestOrdinal_eq_foldr]
  constructor
  · intro p hp n hn
    exact List.le_max_of_le (mem_ordinals.2 ⟨p, hp, hn⟩) le_rfl
  · exact fun h => mem_ordinals.1 (foldr_max_mem h)

section Filling

variable {pieces before : List PatternPiece} {arity : Nat} {arguments : List String}

theorem forall₂_filled (h : ∀ p ∈ pieces, ∀ n, p.Live n → n ≤ arguments.length) :
    List.Forall₂ (Filled arguments) pieces (pieces.map (·.fill arguments)) := by
  rw [List.forall₂_map_right_iff, List.forall₂_same]
  exact fun p hp => filled_fill (h p hp)

theorem toList_fillPattern (pattern : String) (arguments : List String) :
    (fillPattern pattern arguments).toList =
      ((patternPieces pattern.toList).map (·.fill arguments)).flatten := by
  rw [fillPattern, String.toList_ofList, List.flatMap_def]

theorem HasArity.fillPattern_take {pattern : String}
    (h : HasArity (patternPieces pattern.toList) arity) (arguments : List String) :
    fillPattern pattern (arguments.take arity) = fillPattern pattern arguments := by
  rw [fillPattern, fillPattern]
  congr 1
  exact List.flatMap_congr fun p hp => fill_take (h.bound p hp)

/-- Among pieces with too few arguments there is a first place that lacks its own. -/
theorem HasArity.exists_missing (h : HasArity pieces arity) (hlt : arguments.length < arity) :
    ∃ before digits after n, pieces = before ++ .mark digits :: after ∧ Live (.mark digits) n ∧
      arguments.length < n ∧ ∀ p ∈ before, ∀ n, p.Live n → n ≤ arguments.length := by
  classical
  obtain ⟨p, hp, hlive⟩ := h.attained (by omega)
  have hfound : (pieces.find? fun p => ∃ n, p.Live n ∧ arguments.length < n).isSome :=
    List.find?_isSome.2 ⟨p, hp, by simpa using ⟨arity, hlive, hlt⟩⟩
  obtain ⟨place, hplace⟩ := Option.isSome_iff_exists.1 hfound
  obtain ⟨hmissing, before, after, heq, hbefore⟩ := List.find?_eq_some_iff_append.1 hplace
  obtain ⟨n, hn, hlen⟩ := of_decide_eq_true hmissing
  obtain ⟨digits, rfl, -⟩ := id hn
  refine ⟨before, digits, after, n, heq, hn, hlen, fun q hq m hm => ?_⟩
  have hpresent := hbefore q hq
  simp only [Bool.not_eq_true', decide_eq_false_iff_not, not_exists, not_and, not_lt] at hpresent
  exact hpresent m hm

end Filling

/-- A function emulated by a pattern takes as many arguments as the pattern has places. -/
theorem FunctionTable.render_pattern (t : FunctionTable) (name pattern : String)
    (arguments : List String) :
    ((Change.pattern name pattern).apply t).render name arguments =
      if arguments.length = largestOrdinal pattern then .ok (fillPattern pattern arguments)
      else .error (.wrongArity name (.exactly (largestOrdinal pattern)) arguments.length) := by
  have hfind : ((Change.pattern name pattern).apply t).find? name =
      some ⟨.pattern pattern, .exactly (largestOrdinal pattern)⟩ := by
    simp [find?, aliasDepth, follow, Change.pattern, Change.apply, insert]
  have haccepts : (Arity.exactly (largestOrdinal pattern)).accepts arguments.length = true ↔
      arguments.length = largestOrdinal pattern := by
    simp [Arity.accepts_iff, Arity.exactly]
    omega
  simp only [render, resolve, hfind, bind, Except.bind, haccepts]
  rfl

/-- A pattern has one reading, and its arity is the largest live place of it. With as many
arguments every live place is filled, with its own argument, and all else copied; arguments beyond
the arity do not matter, and with fewer a live place stays as it is. A function emulated by the
pattern takes that many. -/
theorem pattern_arity_exact (pattern : String) :
    ∃ pieces, (∀ other, Reads pattern.toList other ↔ other = pieces) ∧
      HasArity pieces (largestOrdinal pattern) ∧
      (∀ arguments, largestOrdinal pattern ≤ arguments.length →
        ∃ texts, List.Forall₂ (Filled arguments) pieces texts ∧
          (fillPattern pattern arguments).toList = texts.flatten) ∧
      (∀ arguments, fillPattern pattern (arguments.take (largestOrdinal pattern)) =
        fillPattern pattern arguments) ∧
      (∀ arguments, arguments.length < largestOrdinal pattern →
        ∃ before digits after n texts rest, pieces = before ++ .mark digits :: after ∧
          Live (.mark digits) n ∧ arguments.length < n ∧
          List.Forall₂ (Filled arguments) before texts ∧
          (fillPattern pattern arguments).toList = texts.flatten ++ '?' :: digits ++ rest) ∧
      ∀ (t : FunctionTable) (name : String) (arguments : List String),
        ((FunctionTable.Change.pattern name pattern).apply t).render name arguments =
          if arguments.length = largestOrdinal pattern then .ok (fillPattern pattern arguments)
          else .error (.wrongArity name (.exactly (largestOrdinal pattern)) arguments.length) := by
  have harity := hasArity_largestOrdinal pattern
  refine ⟨patternPieces pattern.toList, fun _ => reads_iff, harity, ?_, harity.fillPattern_take, ?_,
    fun t name arguments => t.render_pattern name pattern arguments⟩
  · intro arguments hle
    exact ⟨_, forall₂_filled fun p hp n hn => (harity.bound p hp n hn).trans hle,
      toList_fillPattern pattern arguments⟩
  · intro arguments hlt
    obtain ⟨before, digits, after, n, heq, hn, hlen, hbefore⟩ := harity.exists_missing hlt
    refine ⟨before, digits, after, n, _, (after.map (·.fill arguments)).flatten, heq, hn, hlen,
      forall₂_filled hbefore, ?_⟩
    rw [toList_fillPattern, heq, List.map_append, List.map_cons, List.flatten_append,
      List.flatten_cons, fill_of_missing hn hlen, List.append_assoc]

example : largestOrdinal "¿?07, ?, ?0, ?99999999999999999999?" = 7 := by decide +kernel

end PortableSql
