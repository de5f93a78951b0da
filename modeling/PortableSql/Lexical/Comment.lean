import PortableSql.Text.Blank
import PortableSql.Text.Digraph
import PortableSql.Text.WordChar

/-! Block comments and optimizer hints. A comment is made harmless by a backslash inside
every delimiter it contains, closing ones first. Hints go into a comment of their own
behind the word that opens a query, and they are written as they are given. -/

namespace PortableSql.Comment

/-- Two characters that open a block comment. -/
def opening : Text.Digraph := ⟨'/', '*'⟩

/-- Two characters that close one. -/
def closing : Text.Digraph := ⟨'*', '/'⟩

/-- The delimiter with a backslash between its characters. -/
def broken (d : Text.Digraph) : List Char := [d.first, '\\', d.second]

def escapeChars (comment : List Char) : List Char :=
  opening.replaceAll (broken opening) (closing.replaceAll (broken closing) comment)

/-- The comment with its delimiters broken up. -/
def escape (comment : String) : String := String.ofList (escapeChars comment.toList)

/-- The statement behind an escaped comment, or alone if the comment is empty. -/
def prepend (sql comment : String) : String :=
  if comment = "" then sql else "/* " ++ escape comment ++ " */ " ++ sql

/-- Does the text start with the letters, in either case? A long s counts as an s. -/
def startsWithLetters (letters text : List Char) : Bool :=
  match letters, text with
  | [], _ => true
  | _ :: _, [] => false
  | l :: letters, c :: text =>
    (c.toLower = l || (l = 's' && c = '\u017f')) && startsWithLetters letters text

/-- The leading blanks and the word `select`, cut off from a text that starts with them. -/
def splitSelect? (sql : List Char) : Option (List Char × List Char) :=
  let blanks := sql.takeWhile Text.isBlank
  let body := sql.dropWhile Text.isBlank
  let rest := body.drop 6
  if startsWithLetters "select".toList body && !(rest.head?.any Text.isWordChar) then
    some (blanks ++ body.take 6, rest)
  else none

/-- A query with hints behind its leading word; any other statement as it is. -/
def hinted (sql : String) (hints : List String) : String :=
  match hints, splitSelect? sql.toList with
  | _ :: _, some (select, rest) =>
    String.ofList select ++ " /*+ " ++ " ".intercalate hints ++ " */" ++ String.ofList rest
  | _, _ => sql

theorem splitSelect?_append {sql select rest : List Char}
    (h : splitSelect? sql = some (select, rest)) : select ++ rest = sql := by
  simp only [splitSelect?] at h
  split at h
  · simp only [Option.some.injEq, Prod.mk.injEq] at h
    obtain ⟨rfl, rfl⟩ := h
    rw [List.append_assoc, List.take_append_drop, List.takeWhile_append_dropWhile]
  · cases h

end PortableSql.Comment
