import PortableSql.Schema.ObjectName
import PortableSql.Text.Digraph

/-! Sequences: their creation and removal, and the expression that takes the next number. -/

namespace PortableSql

structure Sequence where
  name : ObjectName
  initial : Int := 1
  increment : Int := 1
  deriving DecidableEq, Repr

/-- The variable of the sequence name in a template. -/
def nameVariable : Text.Digraph := ⟨'$', 'n'⟩

/-- The variable of the next-value expression in a template. -/
def valueVariable : Text.Digraph := ⟨'$', 'v'⟩

/-- A template with every occurrence of its variable replaced. -/
def instantiate (template : String) (place : Text.Digraph) (text : String) : String :=
  String.ofList (place.replaceAll text.toList template.toList)

namespace Dialect

def demandSequences (d : Dialect) : Except Failure Unit :=
  d.demand d.config.sequences.supported .sequences

/-- The expression that takes the next number of a sequence. -/
def nextValue (d : Dialect) (sequence : String) : Except Failure String := do
  d.demandSequences
  return instantiate d.config.sequences.nextValue nameVariable (d.renderIdentifier sequence)

/-- The statement that selects the next number of a sequence. -/
def selectNextValue (d : Dialect) (sequence : String) : Except Failure String := do
  let next ← d.nextValue sequence
  return instantiate d.config.sequences.selectNextValue valueVariable next

end Dialect

namespace Sequence

/-- The statement that creates the sequence. -/
def create (d : Dialect) (s : Sequence) : Except Failure String := do
  d.demandSequences
  if s.increment = 0 then .error (.conflict (.zeroIncrement s.name.name))
  else do
    d.demand (s.increment = 1 || d.config.sequences.pooled) .pooledSequences
    return "create sequence " ++ s.name.render d ++ " start with " ++ toString s.initial ++
      " increment by " ++ toString s.increment

/-- The statement that drops the sequence. -/
def drop (d : Dialect) (s : Sequence) : Except Failure String := do
  d.demandSequences
  return "drop sequence " ++ (if d.can .ifExistsOnDropSequence then "if exists " else "") ++
    s.name.render d

end Sequence

end PortableSql
