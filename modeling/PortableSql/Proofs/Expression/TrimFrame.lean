import PortableSql.Dialect.Phrase
import PortableSql.Proofs.Expression.Reading

/-! Patterns with one place and text around it that holds none. A text may hold question marks and
digits and still no live place, as a character between quotes does: its quotes keep it from what
stands beside it. Between two such texts the first place is the only one, and it is filled with the
operand as it is. The patterns that trim a string are of this kind, whatever character they name. -/

namespace PortableSql

open PatternPiece

section Append

variable {s t : List Char}

/-- Texts are read one after the other where the second begins with no digit. -/
theorem Reads.append {pieces more : List PatternPiece} (hs : Reads s pieces) (ht : Reads t more)
    (hstop : ∀ c ∈ t.head?, ¬ c.isDigit) : Reads (s ++ t) (pieces ++ more) := by
  induction hs with
  | nil => exact ht
  | text hc _ ih => exact .text hc ih
  | @mark digits rest pieces hdigits hrest _ ih =>
    have hnext : ∀ c ∈ (rest ++ t).head?, ¬ c.isDigit := by
      cases rest with
      | nil => exact hstop
      | cons c rest => exact hrest
    rw [List.append_assoc]
    exact .mark hdigits hnext ih

theorem patternPieces_append (hstop : ∀ c ∈ t.head?, ¬ c.isDigit) :
    patternPieces (s ++ t) = patternPieces s ++ patternPieces t :=
  (reads_iff.1 ((reads_iff.2 rfl).append (reads_iff.2 rfl) hstop)).symm

/-- The text has no live place. -/
def Inert (s : List Char) : Prop := ∀ p ∈ patternPieces s, ∀ n, ¬ p.Live n

theorem Inert.append (hs : Inert s) (ht : Inert t) (hstop : ∀ c ∈ t.head?, ¬ c.isDigit) :
    Inert (s ++ t) := by
  intro p hp
  rw [patternPieces_append hstop] at hp
  exact (List.mem_append.1 hp).elim (hs p) (ht p)

/-- A text without question marks is text throughout. -/
theorem reads_of_notMem (h : '?' ∉ s) : Reads s (s.map .text) := by
  induction s with
  | nil => exact .nil
  | cons c s ih =>
    rw [List.mem_cons, not_or] at h
    exact .text (Ne.symm h.1) (ih h.2)

theorem inert_of_notMem (h : '?' ∉ s) : Inert s := by
  intro p hp n
  rw [← reads_iff.1 (reads_of_notMem h)] at hp
  obtain ⟨c, -, rfl⟩ := List.mem_map.1 hp
  rintro ⟨digits, heq, -⟩
  cases heq

theorem Inert.flatMap_fill (h : Inert s) (arguments : List String) :
    (patternPieces s).flatMap (·.fill arguments) = s := by
  rw [List.flatMap_congr fun p hp => fill_of_not_live (h p hp), spelling_patternPieces]

theorem inert_iff : Inert s ↔ (patternPieces s).filterMap ordinal? = [] := by
  rw [List.filterMap_eq_nil_iff]
  simp only [Inert, Option.eq_none_iff_forall_ne_some, ne_eq, ordinal?_eq_some_iff]

end Append

/-- The pattern is the first place between two texts that have none. -/
structure Frames (before after pattern : String) : Prop where
  text : pattern = before ++ "?1" ++ after
  inert_before : Inert before.toList
  inert_after : Inert after.toList
  /-- No digit behind the place goes with its number. -/
  stop : ∀ c ∈ after.toList.head?, ¬ c.isDigit

namespace Frames

variable {before after pattern : String}

theorem patternPieces_eq (h : Frames before after pattern) :
    patternPieces pattern.toList =
      patternPieces before.toList ++ .mark ['1'] :: patternPieces after.toList := by
  have htext : pattern.toList = before.toList ++ (['?', '1'] ++ after.toList) := by
    simp [h.text]
  have hplace : patternPieces ['?', '1'] = [.mark ['1']] := by decide
  rw [htext, patternPieces_append (by simp), patternPieces_append h.stop, hplace,
    List.singleton_append]

theorem ordinals (h : Frames before after pattern) :
    (patternPieces pattern.toList).filterMap ordinal? = [1] := by
  have hplace : ordinal? (.mark ['1']) = some 1 := by decide
  rw [h.patternPieces_eq, List.filterMap_append, List.filterMap_cons_some hplace,
    inert_iff.1 h.inert_before, inert_iff.1 h.inert_after, List.nil_append]

theorem largestOrdinal_eq (h : Frames before after pattern) : largestOrdinal pattern = 1 := by
  rw [largestOrdinal_eq_foldr, h.ordinals]
  rfl

theorem fillPattern_eq (h : Frames before after pattern) (operand : String) :
    fillPattern pattern [operand] = before ++ operand ++ after := by
  have hplace : fill [operand] (.mark ['1']) = operand.toList := rfl
  rw [← String.toList_inj, fillPattern, String.toList_ofList, h.patternPieces_eq,
    List.flatMap_append, List.flatMap_cons, h.inert_before.flatMap_fill,
    h.inert_after.flatMap_fill, hplace]
  simp

end Frames

/-- A literal begins with a quote. -/
theorem Literal.not_isDigit_head?_string (value : String) (rest : List Char) :
    ∀ c ∈ ((Literal.string value).toList ++ rest).head?, ¬ c.isDigit := by
  simp [Literal.string, Literal.stringChars, Literal.quoteMark]

namespace TrimSide

theorem marker_notMem_keyword (side : TrimSide) : '?' ∉ side.keyword.toList := by
  cases side <;> decide

theorem marker_notMem_function (side : TrimSide) : '?' ∉ side.function.toList := by
  cases side <;> decide

end TrimSide

namespace Dialect

/-- The text before and behind the operand. Blanks go without saying, and any other character
stands there as a string literal. -/
inductive TrimFrame (side : TrimSide) (c : Char) : TrimStyle → String → String → Prop
  | ansiBlank (h : c = ' ') : TrimFrame side c .ansi ("trim(" ++ side.keyword ++ " from ") ")"
  | ansi (h : c ≠ ' ') :
    TrimFrame side c .ansi
      ("trim(" ++ side.keyword ++ " " ++ Literal.string c.toString ++ " from ") ")"
  | functionBlank (h : c = ' ') : TrimFrame side c .functions (side.function ++ "(") ")"
  | function (h : c ≠ ' ') :
    TrimFrame side c .functions (side.function ++ "(")
      ("," ++ Literal.string c.toString ++ ")")

/-- The special case of the quote is the same literal. -/
theorem quotedCharacter_eq_string (c : Char) :
    quotedCharacter c = Literal.string c.toString := by
  rw [quotedCharacter]
  split_ifs with h
  · subst h
    decide
  · have hsingle : Literal.escape [c] = [c] := by
      rw [Literal.escape, List.flatMap_singleton, if_neg h]
    simp [← String.toList_inj, Literal.string, Literal.stringChars, hsingle, Literal.quoteMark]

/-- Between quotes a question mark has no digit behind it, and a digit no question mark in front. -/
theorem inert_string_singleton (c : Char) : Inert (Literal.string c.toString).toList := by
  rw [← quotedCharacter_eq_string]
  by_cases hmark : c = '?'
  · subst hmark
    exact inert_iff.2 (by decide)
  · refine inert_of_notMem ?_
    rw [quotedCharacter]
    split_ifs with h
    · decide
    · simp [Ne.symm hmark]

theorem exists_trimFrame (d : Dialect) (side : TrimSide) (c : Char) :
    ∃ before after, TrimFrame side c d.config.trim before after ∧
      d.trimPattern side c = before ++ "?1" ++ after := by
  rw [trimPattern, quotedCharacter_eq_string]
  cases d.config.trim with
  | ansi =>
    by_cases h : c = ' '
    · exact ⟨_, _, .ansiBlank h, by simp [h, ← String.toList_inj]⟩
    · exact ⟨_, _, .ansi h, by simp [h, ← String.toList_inj]⟩
  | functions =>
    by_cases h : c = ' '
    · exact ⟨_, _, .functionBlank h, by simp [h, ← String.toList_inj]⟩
    · exact ⟨_, _, .function h, by simp [h, ← String.toList_inj]⟩

/-- Only the operand is a place of the pattern. -/
theorem TrimFrame.frames {side : TrimSide} {c : Char} {style : TrimStyle} {before after : String}
    (h : TrimFrame side c style before after) : Frames before after (before ++ "?1" ++ after) := by
  have hkeyword := side.marker_notMem_keyword
  have hfunction := side.marker_notMem_function
  have hliteral := inert_string_singleton c
  have hclose : Inert [')'] := inert_of_notMem (by decide)
  cases h with
  | ansiBlank => exact ⟨rfl, inert_of_notMem (by simp [hkeyword]), hclose, by simp⟩
  | ansi =>
    refine ⟨rfl, ?_, hclose, by simp⟩
    have hbefore : Inert ("trim(" ++ side.keyword ++ " ").toList :=
      inert_of_notMem (by simp [hkeyword])
    have hafter : Inert " from ".toList := inert_of_notMem (by decide)
    have hrest := hliteral.append hafter (by simp)
    rw [String.toList_append, String.toList_append, List.append_assoc]
    exact hbefore.append hrest (Literal.not_isDigit_head?_string _ _)
  | functionBlank => exact ⟨rfl, inert_of_notMem (by simp [hfunction]), hclose, by simp⟩
  | function =>
    refine ⟨rfl, inert_of_notMem (by simp [hfunction]), ?_, by simp⟩
    have hcomma : Inert [','] := inert_of_notMem (by decide)
    have hrest := hliteral.append hclose (by simp)
    rw [String.toList_append, String.toList_append, List.append_assoc]
    exact hcomma.append hrest (Literal.not_isDigit_head?_string _ _)

end Dialect

/-- A pattern that trims has one place, for its operand, between two texts without any. It names
the character, unless that is a blank, as a string literal. Filling the pattern puts the operand
where the place was and changes nothing else, whatever the character and the operand are. -/
theorem trim_places_operand (d : Dialect) (side : TrimSide) (c : Char) :
    ∃ before after, Dialect.TrimFrame side c d.config.trim before after ∧
      Frames before after (d.trimPattern side c) ∧
      (patternPieces (d.trimPattern side c).toList).filterMap PatternPiece.ordinal? = [1] ∧
      largestOrdinal (d.trimPattern side c) = 1 ∧
      ∀ operand, fillPattern (d.trimPattern side c) [operand] = before ++ operand ++ after := by
  obtain ⟨before, after, hframe, htext⟩ := d.exists_trimFrame side c
  have h := hframe.frames
  rw [htext]
  exact ⟨before, after, hframe, h, h.ordinals, h.largestOrdinal_eq, h.fillPattern_eq⟩

example : fillPattern (Dialect.standard.trimPattern .both '?') ["?1'"] =
    "trim(both '?' from ?1')" := by
  decide +kernel

end PortableSql
