import PortableSql.Text.Span

/-! White space in the sense of Unicode, and the trimming of names and reported
words. No-break spaces and the ideographic space are blank; the zero-width space
and the byte order mark are not. -/

namespace PortableSql.Text

/-- The twenty-five characters with the property White_Space. -/
def blankSpans : List Span :=
  [(9, 13), (32, 32), (133, 133), (160, 160), (5760, 5760), (8192, 8202), (8232, 8233),
    (8239, 8239), (8287, 8287), (12288, 12288)]

def isBlank (c : Char) : Bool := inSpans blankSpans c

/-- The list without its blank characters in front. -/
def stripStart (s : List Char) : List Char := s.dropWhile isBlank

/-- The list without its blank characters at both ends. -/
def strip (s : List Char) : List Char := (stripStart (stripStart s).reverse).reverse

def trimStart (s : String) : String := String.ofList (stripStart s.toList)

def trim (s : String) : String := String.ofList (strip s.toList)

@[simp] theorem toList_trim (s : String) : (trim s).toList = strip s.toList :=
  String.toList_ofList

@[simp] theorem toList_trimStart (s : String) : (trimStart s).toList = stripStart s.toList :=
  String.toList_ofList

end PortableSql.Text
