/-! Pairs of adjacent characters and their replacement. Placeholders such as `$l`,
the template variables `$n` and `$v`, and the delimiters of a block comment are all
of this kind. Both replacements read the text once from left to right and never
look again at what they have inserted. -/

namespace PortableSql.Text

/-- Two characters that mean something when they stand side by side. -/
structure Digraph where
  first : Char
  second : Char
  deriving DecidableEq, Repr

namespace Digraph

def toList (d : Digraph) : List Char := [d.first, d.second]

/-- Does the pair stand somewhere in the text? -/
def occursIn (d : Digraph) : List Char → Bool
  | a :: b :: rest => (a = d.first && b = d.second) || d.occursIn (b :: rest)
  | _ => false

/-- The text with the leftmost occurrence of the pair replaced. -/
def replaceFirst (d : Digraph) (replacement : List Char) : List Char → List Char
  | a :: b :: rest =>
    if a = d.first ∧ b = d.second then replacement ++ rest
    else a :: d.replaceFirst replacement (b :: rest)
  | short => short

/-- The text with every occurrence of the pair replaced, from the left and without overlap. -/
def replaceAll (d : Digraph) (replacement : List Char) : List Char → List Char
  | a :: b :: rest =>
    if a = d.first ∧ b = d.second then replacement ++ d.replaceAll replacement rest
    else a :: d.replaceAll replacement (b :: rest)
  | short => short

theorem replaceAll_of_not_occursIn {d : Digraph} {replacement s : List Char}
    (h : d.occursIn s = false) : d.replaceAll replacement s = s := by
  fun_induction d.replaceAll replacement s with
  | case1 a b rest hab => simp [occursIn, hab] at h
  | case2 a b rest hab ih =>
    simp only [occursIn, Bool.or_eq_false_iff] at h
    rw [ih h.2]
  | case3 => rfl

end Digraph

end PortableSql.Text
