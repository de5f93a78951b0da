/-! What the library reports while it works: names that were borrowed or followed, lock
requests that were raised, batches that could not be padded, dialects that were
completed. The functions that decide these things are pure; an event only describes
a decision, and a program may show it or drop it. -/

namespace PortableSql

/-- How much attention an event asks for, the least first. -/
inductive Severity
  | trace | debug | warn
  deriving DecidableEq, Repr

def Severity.label : Severity → String
  | .trace => "TRACE"
  | .debug => "DEBUG"
  | .warn => "WARN"

/-- A named detail of an event. Text is put in quotes in a log line, measures are not. -/
structure Detail where
  name : String
  value : String
  quoted : Bool
  deriving DecidableEq, Repr

namespace Detail

def text (name value : String) : Detail := ⟨name, value, true⟩

def plain (name value : String) : Detail := ⟨name, value, false⟩

def count (name : String) (n : Nat) : Detail := plain name (toString n)

def number (name : String) (n : Int) : Detail := plain name (toString n)

def render (d : Detail) : String :=
  d.name ++ "=" ++ (if d.quoted then "\"" ++ d.value ++ "\"" else d.value)

end Detail

structure Event where
  severity : Severity
  message : String
  details : List Detail
  deriving DecidableEq, Repr

/-- The log line of an event: the severity right-aligned to five places, then the message and
the details. -/
def Event.line (e : Event) : String :=
  let label := e.severity.label
  String.ofList (List.replicate (5 - label.length) ' ') ++
    " ".intercalate (label :: e.message :: e.details.map Detail.render)

end PortableSql
