import Mathlib.Data.List.Forall2
import PortableSql.Backend
import PortableSql.Proofs.Lexical.QuotedName
import PortableSql.Proofs.Text.Doubled
import PortableSql.Proofs.Text.Joined
import PortableSql.Schema.ObjectName

/-! Reading names back. A quoted name begins with the opening character and ends at a closing
one that is not doubled, so its text can be read off whatever characters it holds. The parts of
a qualified name are told apart by the dots outside quotes: a part that begins with the opening
character ends with its quotes, and any other at the next dot. -/

namespace PortableSql

namespace QuoteStyle

variable {q : QuoteStyle}

/-- Read a quoted name at the beginning of a text. The result is the name and what is left. -/
def readQuoted (q : QuoteStyle) : List Char → Option (List Char × List Char)
  | [] => none
  | c :: rest => if c = q.opening then Text.readDoubled q.closing rest else none

theorem readQuoted_quote (name : String) (rest : List Char)
    (h : rest.head? ≠ some q.closing) :
    q.readQuoted ((q.quote name).toList ++ rest) = some (name.toList, rest) := by
  have htext : (q.quote name).toList ++ rest =
      q.opening :: (q.escape name.toList ++ q.closing :: rest) := by simp [quote]
  rw [htext, readQuoted, if_pos rfl, escape]
  exact Text.readDoubled_double name.toList h

/-- What a part of a portable qualified name stands for. -/
inductive Denotes (q : QuoteStyle) : String → String → Prop
  | wrapped (inner : String) : Denotes q ("\x60" ++ inner ++ "\x60") inner
  | plain {part : String} (hne : part ≠ "") (hdot : '.' ∉ part.toList)
      (hwrapped : ∀ inner, part ≠ "\x60" ++ inner ++ "\x60")
      (hopening : part.toList.head? ≠ some q.opening) : Denotes q part part

theorem requote_wrapped (q : QuoteStyle) (inner : String) :
    q.requote ("\x60" ++ inner ++ "\x60") = q.quote inner := by
  have hunwrap : unwrap? ("\x60" ++ inner ++ "\x60").toList = some inner.toList :=
    unwrap?_eq_some_iff.2 (by simp [backtick])
  simp only [requote, hunwrap, String.ofList_toList]

theorem requote_of_not_wrapped {part : String}
    (h : ∀ inner, part ≠ "\x60" ++ inner ++ "\x60") : q.requote part = part := by
  have hunwrap : unwrap? part.toList = none := by
    cases hu : unwrap? part.toList with
    | none => rfl
    | some inner =>
      refine absurd ?_ (h (String.ofList inner))
      simp [← String.toList_inj, unwrap?_eq_some_iff.1 hu, backtick]
  rw [requote, hunwrap]

end QuoteStyle

end PortableSql
