import PortableSql.Lexical.QuoteStyle

/-! Names that are seen to be quoted. A name is, if it begins and ends with the characters of a
style, or with backticks. Its bytes are counted to keep one character from being both ends, and so
a lone character of several bytes still passes where the style opens and closes with it. -/

namespace PortableSql

namespace QuoteStyle

variable {q : QuoteStyle} {name : String}

/-- The name stands between the characters of the style. -/
def Encloses (q : QuoteStyle) (name : String) : Prop :=
  ∃ inner, name = String.singleton q.opening ++ inner ++ String.singleton q.closing

theorem encloses_iff_toList :
    q.Encloses name ↔ ∃ inner, name.toList = q.opening :: inner ++ [q.closing] := by
  constructor
  · rintro ⟨inner, rfl⟩
    exact ⟨inner.toList, by simp⟩
  · rintro ⟨inner, h⟩
    exact ⟨String.ofList inner, by simp [← String.toList_inj, h]⟩

theorem encloses_quote (q : QuoteStyle) (name : String) : q.Encloses (q.quote name) :=
  encloses_iff_toList.2 ⟨q.escape name.toList, String.toList_ofList⟩

/-- The ends of a name tell the style. -/
theorem eq_of_encloses {r : QuoteStyle} (hq : q.Encloses name) (hr : r.Encloses name) : q = r := by
  obtain ⟨inner, hname⟩ := encloses_iff_toList.1 hq
  obtain ⟨other, hother⟩ := encloses_iff_toList.1 hr
  rw [hname, List.cons_append, List.cons_append, List.cons.injEq] at hother
  obtain ⟨hopening, htail⟩ := hother
  have hclosing : q.closing = r.closing := by simpa using congrArg List.getLast? htail
  calc
    q = ⟨q.opening, q.closing⟩ := rfl
    _ = r := by rw [hopening, hclosing]

theorem two_le_length_of_encloses (h : q.Encloses name) : 2 ≤ name.toList.length := by
  obtain ⟨inner, hname⟩ := encloses_iff_toList.1 h
  simp [hname]

/-- Text between two characters takes a byte for each of them at least. -/
theorem two_le_utf8ByteSize_of_encloses (h : q.Encloses name) : 2 ≤ name.utf8ByteSize := by
  obtain ⟨inner, rfl⟩ := h
  have hopening := q.opening.utf8Size_pos
  have hclosing := q.closing.utf8Size_pos
  rw [String.utf8ByteSize_append, String.utf8ByteSize_append, String.utf8ByteSize_singleton,
    String.utf8ByteSize_singleton]
  omega

/-- The ends of a text are two characters, or one that is both of them. -/
theorem ends_iff :
    name.toList.head? = some q.opening ∧ name.toList.getLast? = some q.closing ↔
      q.Encloses name ∨ q.opening = q.closing ∧ name = String.singleton q.opening := by
  rw [encloses_iff_toList]
  constructor
  · rintro ⟨hhead, hlast⟩
    obtain ⟨rest, hname⟩ := List.head?_eq_some_iff.1 hhead
    rw [hname] at hlast ⊢
    rcases List.eq_nil_or_concat rest with rfl | ⟨inner, c, rfl⟩
    · have hsame : q.opening = q.closing := by simpa using hlast
      exact .inr ⟨hsame, by simp [← String.toList_inj, hname]⟩
    · have hc : c = q.closing := by simpa [List.getLast?_cons] using hlast
      exact .inl ⟨inner, by simp [hc]⟩
  · rintro (⟨inner, hname⟩ | ⟨hsame, rfl⟩)
    · rw [hname]
      exact ⟨rfl, List.getLast?_concat⟩
    · simp [hsame]

/-- Counting bytes rules out a lone character only if it has one byte. -/
theorem isWrapped_iff :
    isWrapped q.opening q.closing name = true ↔
      q.Encloses name ∨
        (q.opening = q.closing ∧ name = String.singleton q.opening) ∧ 1 < q.opening.utf8Size := by
  have hparts : isWrapped q.opening q.closing name = true ↔ 2 ≤ name.utf8ByteSize ∧
      name.toList.head? = some q.opening ∧ name.toList.getLast? = some q.closing := by
    simp [isWrapped, and_assoc]
  rw [hparts, ends_iff]
  constructor
  · rintro ⟨hsize, h | ⟨hsame, rfl⟩⟩
    · exact .inl h
    · rw [String.utf8ByteSize_singleton] at hsize
      exact .inr ⟨⟨hsame, rfl⟩, hsize⟩
  · rintro (h | ⟨⟨hsame, rfl⟩, hwide⟩)
    · exact ⟨two_le_utf8ByteSize_of_encloses h, .inl h⟩
    · rw [String.utf8ByteSize_singleton]
      exact ⟨hwide, .inr ⟨hsame, rfl⟩⟩

theorem isWrapped_backtick_iff :
    isWrapped backtick backtick name = true ↔ backticks.Encloses name := by
  have hnarrow : ¬ 1 < backtick.utf8Size := by decide
  have h : isWrapped backticks.opening backticks.closing name = true ↔ _ := isWrapped_iff
  simpa [backticks, hnarrow] using h

/-- A name is seen to be quoted if it stands between the characters of the style or between
backticks, and besides only if it is the one character, of several bytes, that both opens and
closes the style. So no other name of one character is. -/
theorem isQuoted_iff (q : QuoteStyle) :
    (∀ name : String, q.isQuoted name = true ↔
      (q.Encloses name ∨ backticks.Encloses name) ∨
        (q.opening = q.closing ∧ name = String.singleton q.opening) ∧ 1 < q.opening.utf8Size) ∧
    ∀ c : Char, q.isQuoted (String.singleton c) = true ↔
      (q.opening = c ∧ q.closing = c) ∧ 1 < c.utf8Size := by
  have hquoted : ∀ name : String, q.isQuoted name = true ↔
      (q.Encloses name ∨ backticks.Encloses name) ∨
        (q.opening = q.closing ∧ name = String.singleton q.opening) ∧
          1 < q.opening.utf8Size := by
    intro name
    rw [isQuoted, Bool.or_eq_true, isWrapped_iff, isWrapped_backtick_iff, or_right_comm]
  refine ⟨hquoted, fun c => ?_⟩
  have hshort : ∀ r : QuoteStyle, ¬ r.Encloses (String.singleton c) := by
    intro r h
    have hlength := two_le_length_of_encloses h
    simp at hlength
  rw [hquoted]
  constructor
  · rintro ((h | h) | ⟨⟨hsame, hc⟩, hwide⟩)
    · exact absurd h (hshort q)
    · exact absurd h (hshort backticks)
    · obtain rfl : c = q.opening := by simpa [← String.toList_inj] using hc
      exact ⟨⟨rfl, hsame.symm⟩, hwide⟩
  · rintro ⟨⟨rfl, hsame⟩, hwide⟩
    exact .inr ⟨⟨hsame.symm, rfl⟩, hwide⟩

/-- A letter of two bytes that opens and closes a style, alone. -/
theorem isQuoted_lone_wide_mark :
    let q : QuoteStyle := ⟨'\u00e9', '\u00e9'⟩
    q.isQuoted "\u00e9" = true ∧ ¬ (q.Encloses "\u00e9" ∨ backticks.Encloses "\u00e9") := by
  refine ⟨by decide, ?_⟩
  rintro (h | h)
  · exact absurd (two_le_length_of_encloses h) (by decide)
  · exact absurd (two_le_length_of_encloses h) (by decide)

end QuoteStyle

end PortableSql
