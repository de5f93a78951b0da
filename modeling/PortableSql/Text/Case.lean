import PortableSql.Text.CaseTable

/-! Lower-casing of whole texts. Every capital becomes its small letter; two
capitals need more. The dotted capital I becomes a small i followed by a combining
dot, and a capital sigma becomes a final sigma exactly at the end of a word: after
a cased letter and before none, marks and modifiers being passed over on both
sides. -/

namespace PortableSql.Text

/-- The small letter of a capital other than the two that need context or two characters. -/
def smallLetter (c : Char) : Char :=
  if c.toNat < 128 then c.toLower
  else
    match caseRuns.find? (·.covers c.toNat) with
    | some run => Char.ofNat (c.toNat + run.offset).toNat
    | none => c

/-- Does a cased letter come first, once the characters that do not interrupt a word are skipped? -/
def meetsCased (s : List Char) : Bool :=
  match s.dropWhile isCaseIgnorable with
  | c :: _ => isCased c
  | [] => false

/-- The small form of `c` between the reversed text `before` and the text `after`. -/
def smallForm (before after : List Char) (c : Char) : List Char :=
  if c = 'Σ' then [if meetsCased before && !meetsCased after then 'ς' else 'σ']
  else if c = 'İ' then ['i', '\u0307']
  else [smallLetter c]

def lowerFrom (before : List Char) : List Char → List Char
  | [] => []
  | c :: after => smallForm before after c ++ lowerFrom (c :: before) after

def lowerChars (s : List Char) : List Char := lowerFrom [] s

/-- The text in small letters. -/
def lower (s : String) : String := String.ofList (lowerChars s.toList)

@[simp] theorem toList_lower (s : String) : (lower s).toList = lowerChars s.toList :=
  String.toList_ofList

end PortableSql.Text
