import PortableSql.Dialect.Phrase
import PortableSql.Proofs.Schema.QualifiedName

/-! String literals read back. A literal is a text between quotes in the style that doubles them,
so it ends at the first lone quote, whatever the text holds. A list of literals goes on after a
comma and ends at a parenthesis. Neither is a quote, so what is outside a literal is never taken
for a part of it, nor a part of it for what is outside. -/

namespace PortableSql

namespace Literal

open Text

/-- The marks around a string literal. -/
def marks : QuoteStyle := ⟨quoteMark, quoteMark⟩

theorem string_eq_quote (value : String) : string value = marks.quote value := rfl

/-- Read a literal at the beginning of a text. The result is the value and what is left. -/
def readString (s : List Char) : Option (List Char × List Char) := marks.readQuoted s

/-- A literal ends where no other mark follows it. -/
theorem readString_string (value : String) {rest : List Char} (h : rest.head? ≠ some quoteMark) :
    readString ((string value).toList ++ rest) = some (value.toList, rest) := by
  rw [readString, string_eq_quote]
  exact QuoteStyle.readQuoted_quote value rest h

theorem readString_string_cons (value : String) {c : Char} (hc : c ≠ quoteMark)
    (rest : List Char) :
    readString ((string value).toList ++ c :: rest) = some (value.toList, c :: rest) :=
  readString_string value (by simpa using hc)

theorem readString_string_self (value : String) :
    readString (string value).toList = some (value.toList, []) := by
  have hend : ([] : List Char).head? ≠ some quoteMark := by simp
  rw [← List.append_nil (string value).toList, readString_string value hend]

/-- Reading takes the marks away, if nothing else. -/
theorem length_lt_of_readString {s value rest : List Char}
    (h : readString s = some (value, rest)) : rest.length < s.length := by
  cases s with
  | nil => cases h
  | cons c s =>
    rw [readString, QuoteStyle.readQuoted] at h
    split at h
    · have hlt := length_lt_of_readDoubled h
      simp only [List.length_cons]
      omega
    · cases h

/-- Read literals with commas between them, up to a parenthesis. -/
def readStrings (s : List Char) : Option (List (List Char) × List Char) :=
  match _ : readString s with
  | some (value, c :: rest) =>
    if c = ',' then (readStrings rest).map (Prod.map (value :: ·) id)
    else if c = ')' then some ([value], rest)
    else none
  | _ => none
termination_by s.length
decreasing_by
  have hlt := length_lt_of_readString ‹_›
  simp only [List.length_cons] at hlt
  omega

/-- Read a list of literals that may be empty. -/
def readList : List Char → Option (List (List Char) × List Char)
  | [] => none
  | c :: rest => if c = ')' then some ([], rest) else readStrings (c :: rest)

section ReadStrings

variable {s value rest : List Char}

theorem readStrings_comma (h : readString s = some (value, ',' :: rest)) :
    readStrings s = (readStrings rest).map (Prod.map (value :: ·) id) := by
  rw [readStrings]
  split <;> simp_all

theorem readStrings_close (h : readString s = some (value, ')' :: rest)) :
    readStrings s = some ([value], rest) := by
  rw [readStrings]
  split <;> simp_all

/-- A list that is not empty begins with a mark. -/
theorem readList_of_head? (h : s.head? = some quoteMark) : readList s = readStrings s := by
  cases s with
  | nil => cases h
  | cons c s =>
    have hc : c = quoteMark := Option.some.inj h
    exact if_neg (by simp [hc, quoteMark])

/-- The values come back in their order. -/
theorem readStrings_intercalate (value : String) (values : List String) (rest : List Char) :
    readStrings ((",".intercalate ((value :: values).map string)).toList ++ ')' :: rest) =
      some ((value :: values).map String.toList, rest) := by
  induction values generalizing value with
  | nil =>
    have hread := readString_string_cons value (c := ')') (by decide) rest
    rw [List.map_singleton, String.intercalate_singleton, readStrings_close hread]
    rfl
  | cons next values ih =>
    rw [List.map_cons, List.map_cons, toList_intercalate_cons_cons (c := ',') rfl,
      List.append_assoc, List.cons_append,
      readStrings_comma (readString_string_cons value (by decide) _), ← List.map_cons, ih next]
    rfl

theorem head?_intercalate (value : String) (values : List String) (rest : List Char) :
    ((",".intercalate ((value :: values).map string)).toList ++ rest).head? = some quoteMark := by
  cases values with
  | nil => simp [string, stringChars]
  | cons next values =>
    rw [List.map_cons, List.map_cons, toList_intercalate_cons_cons (c := ',') rfl]
    simp [string, stringChars]

theorem readList_intercalate (values : List String) (rest : List Char) :
    readList ((",".intercalate (values.map string)).toList ++ ')' :: rest) =
      some (values.map String.toList, rest) := by
  cases values with
  | nil => rfl
  | cons value values =>
    rw [readList_of_head? (head?_intercalate value values _), readStrings_intercalate]

end ReadStrings

end Literal

open Literal

theorem toList_enumCheck (column : String) (values : List String) :
    (Dialect.enumCheck column values).toList = (column ++ " in (").toList ++
      ((",".intercalate (values.map Literal.string)).toList ++ [')']) := by
  simp [Dialect.enumCheck]

theorem enumCheck_inj (column : String) {values others : List String} :
    Dialect.enumCheck column values = Dialect.enumCheck column others ↔ values = others := by
  constructor
  · intro h
    have htext := congrArg String.toList h
    rw [toList_enumCheck, toList_enumCheck, List.append_cancel_left_eq] at htext
    have hvalues := readList_intercalate values []
    rw [htext, readList_intercalate others []] at hvalues
    have hlists : others.map String.toList = values.map String.toList := by simpa using hvalues
    exact (List.map_injective_iff.2 (fun _ _ => String.toList_injective) hlists).symm
  · rintro rfl
    rfl

/-- A string literal is read back to its end, and so are the values of a check condition, in their
order. Two lists of values therefore never give the same condition. -/
theorem strings_and_lists_read_back :
    (∀ value : String, readString (Literal.string value).toList = some (value.toList, [])) ∧
      (∀ (column : String) (values : List String), ∃ text,
        (Dialect.enumCheck column values).toList = (column ++ " in (").toList ++ text ∧
          readList text = some (values.map String.toList, [])) ∧
      ∀ (column : String) (values others : List String),
        Dialect.enumCheck column values = Dialect.enumCheck column others ↔ values = others := by
  refine ⟨readString_string_self, ?_, fun column values others => enumCheck_inj column⟩
  intro column values
  exact ⟨_, toList_enumCheck column values, readList_intercalate values []⟩

end PortableSql
