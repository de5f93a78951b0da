/-! Quoted identifiers. A name is put between an opening and a closing character, and a
closing character inside is written twice. Independently of the style of a database,
a name between backticks is understood as quoted everywhere. -/

namespace PortableSql

/-- The characters around a quoted identifier. -/
structure QuoteStyle where
  opening : Char
  closing : Char
  deriving DecidableEq, Repr

/-- The character that quotes portably. -/
def backtick : Char := '\x60'

namespace QuoteStyle

def doubleQuotes : QuoteStyle := ⟨'\x22', '\x22'⟩

def backticks : QuoteStyle := ⟨backtick, backtick⟩

def brackets : QuoteStyle := ⟨'[', ']'⟩

/-- The characters of a name with each closing character doubled. -/
def escape (q : QuoteStyle) (name : List Char) : List Char :=
  name.flatMap fun c => if c = q.closing then [c, c] else [c]

def quote (q : QuoteStyle) (name : String) : String :=
  String.ofList (q.opening :: q.escape name.toList ++ [q.closing])

/-- Does a text of at least two bytes in UTF-8 begin with one character and end with the other? -/
def isWrapped (opening closing : Char) (text : String) : Bool :=
  2 ≤ text.utf8ByteSize && text.toList.head? == some opening && text.toList.getLast? == some closing

/-- Is the name quoted, in this style or portably? -/
def isQuoted (q : QuoteStyle) (name : String) : Bool :=
  isWrapped q.opening q.closing name || isWrapped backtick backtick name

/-- The name inside portable quotes. -/
def unwrap? (name : List Char) : Option (List Char) :=
  match name with
  | [] => none
  | c :: rest =>
    if c = backtick ∧ rest.getLast? = some backtick then some rest.dropLast else none

/-- Give a portably quoted name the quotes of this style, and leave any other as it is. -/
def requote (q : QuoteStyle) (name : String) : String :=
  match unwrap? name.toList with
  | some inner => q.quote (String.ofList inner)
  | none => name

theorem unwrap?_eq_some_iff {name inner : List Char} :
    unwrap? name = some inner ↔ name = backtick :: inner ++ [backtick] := by
  cases name with
  | nil => simp [unwrap?]
  | cons c rest =>
    simp only [unwrap?]
    constructor
    · intro h
      split at h
      · rename_i hc
        obtain ⟨rfl, hlast⟩ := hc
        obtain ⟨init, rfl⟩ := List.getLast?_eq_some_iff.1 hlast
        simp at h
        simp [h]
      · cases h
    · intro h
      simp at h
      simp [h]

end QuoteStyle

end PortableSql
