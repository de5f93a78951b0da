import Std.Data.TreeSet
import PortableSql.Event
import PortableSql.Lexical.ReservedWord
import PortableSql.Text.Blank
import PortableSql.Text.Case
import PortableSql.Text.Split

/-! The reserved words of a dialect. Words are kept trimmed and in small letters, so a
look-up ignores letter case; a word that is blank is no word. A database reports its
own words as one text with commas between them. The set lists its words in the order
of their characters. -/

namespace PortableSql

structure KeywordSet where
  words : Std.TreeSet String := {}

namespace KeywordSet

def empty : KeywordSet := {}

/-- Reserve a word, unless it is blank. -/
def insert (k : KeywordSet) (word : String) : KeywordSet :=
  let word := Text.trim word
  if word = "" then k else ⟨k.words.insert (Text.lower word)⟩

def insertAll (k : KeywordSet) (words : List String) : KeywordSet :=
  words.foldl insert k

/-- The words a database reports, blank ones included. -/
def reportedWords (report : String) : List String :=
  (Text.splitOn ',' report.toList).map String.ofList

def insertReported (k : KeywordSet) (report : String) : KeywordSet :=
  k.insertAll (reportedWords report)

/-- The changes that build a set. -/
inductive Change
  | register (word : String)
  | registerAll (words : List String)
  | report (text : String)

def Change.apply : Change → KeywordSet → KeywordSet
  | register word, k => k.insert word
  | registerAll words, k => k.insertAll words
  | report text, k => k.insertReported text

/-- Make changes in order. -/
def run (changes : List Change) (k : KeywordSet) : KeywordSet :=
  changes.foldl (fun k change => change.apply k) k

/-- Blank entries in a report that is not blank altogether deserve a warning. -/
def reportEvents (report : String) : List Event :=
  let blank := (reportedWords report).countP fun word => Text.trim word = ""
  if 0 < blank ∧ Text.trim report ≠ "" then
    [⟨.warn, "Ignoring empty entries in backend-reported keyword list", [.count "empty" blank]⟩]
  else []

def contains (k : KeywordSet) (word : String) : Bool := k.words.contains (Text.lower word)

/-- The words in order. -/
def toList (k : KeywordSet) : List String := k.words.toList

def size (k : KeywordSet) : Nat := k.words.size

/-- The words of SQL:2003. -/
def sql2003 : KeywordSet := empty.insertAll sql2003Reserved

@[simp] theorem run_nil (k : KeywordSet) : run [] k = k := rfl

@[simp] theorem run_cons (c : Change) (cs : List Change) (k : KeywordSet) :
    run (c :: cs) k = run cs (c.apply k) := rfl

theorem run_append (cs ds : List Change) (k : KeywordSet) :
    run (cs ++ ds) k = run ds (run cs k) := List.foldl_append

end KeywordSet

end PortableSql
