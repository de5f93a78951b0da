/-! Comparison of texts that ignores letter case within ASCII only. -/

namespace PortableSql.Text

/-- The characters with the capitals of ASCII made small. -/
def foldAscii (s : String) : List Char := s.toList.map Char.toLower

/-- Are the texts equal but for the letter case of ASCII? -/
def equalIgnoringCase (s t : String) : Bool := foldAscii s == foldAscii t

@[simp] theorem equalIgnoringCase_iff {s t : String} :
    equalIgnoringCase s t = true ↔ foldAscii s = foldAscii t := by
  simp [equalIgnoringCase]

end PortableSql.Text
