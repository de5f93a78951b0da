import PortableSql.CommandLine.Invocation
import PortableSql.Dialect.ConfigDump
import PortableSql.Schema.Table

/-! What the program answers: lines of output, log lines among them, and perhaps a failure.
Warnings are always shown, details of the work only on request. -/

namespace PortableSql.CommandLine

structure Answer where
  lines : List String
  failure : Option Failure := none
  deriving DecidableEq, Repr

namespace Answer

/-- The status that the program ends with. -/
def exitCode (a : Answer) : Nat := if a.failure.isSome then 1 else 0

/-- The output as it is written. -/
def output (a : Answer) : String := String.join (a.lines.map (· ++ "\n"))

/-- The answer with lines in front of it. -/
def after (lines : List String) (a : Answer) : Answer := { a with lines := lines ++ a.lines }

/-- One line, or the failure. -/
def ofResult : Except Failure String → Answer
  | .ok line => { lines := [line] }
  | .error failure => { lines := [], failure := some failure }

end Answer

/-- The status for an invalid command line. -/
def usageExitCode : Nat := 2

/-- The lines of the events that are shown. -/
def logLines (verbose : Bool) (events : List Event) : List String :=
  (events.filter fun e => match e.severity with
    | .warn => true
    | .debug => verbose
    | .trace => false).map Event.line

namespace Command

/-- The answer of a command on a row to lock, behind the line with the clause. -/
def lockAnswer (d : Dialect) (mode : LockMode) (timeout : LockTimeout) :
    Option LockableRow → Answer
  | none => { lines := [] }
  | some row =>
    match d.lockRow mode row timeout with
    | .ok (some sql) => { lines := [sql] }
    | .ok none => { lines := ["-- " ++ mode.name ++ " is verified at commit, no statement"] }
    | .error failure => { lines := [], failure := some failure }

def answer (d : Dialect) : Command → Answer
  | typeName code supplied =>
    .ofResult (d.resolveTypeName code (d.sizeFor code code.defaultLanguage supplied))
  | cast source target operand sqlType =>
    { lines := [d.castExpression operand source target sqlType] }
  | lock mode timeout row =>
    (lockAnswer d mode timeout row).after
      [Text.trimStart (d.config.locking.fragment mode timeout)]
  | batchSize keys columns => { lines := [toString (d.batchSize columns keys).size] }
  | inList column keys pad => { lines := [d.inList column keys { padInLists := pad }] }
  | keywords => { lines := d.tables.keywords.toList }
  | capabilities => { lines := [d.config.dump.pretty] }
  | dropTable table => .ofResult (table.dropTable d)

/-- What carrying out a command reports. -/
def events (d : Dialect) : Command → List Event
  | batchSize keys columns => (d.batchSize columns keys).events
  | inList _ keys pad => d.paddingEvents keys { padInLists := pad }
  | typeName code supplied =>
    d.borrowingEvents code (d.sizeFor code code.defaultLanguage supplied)
  | _ => []

end Command

namespace Invocation

/-- What the database reports, from the text of the file if one is named. -/
def report (i : Invocation) (content : Except Failure String) : Except Failure ResolutionInfo :=
  match i.reportFile with
  | none => .ok {}
  | some _ => content.bind ResolutionInfo.parse

def loadingEvents (i : Invocation) : List Event :=
  i.reportFile.toList.map fun path =>
    ⟨.debug, "Loading resolution info", [.plain "path" path]⟩

/-- The answer to an invocation; `content` is what the named file holds. -/
def answer (i : Invocation) (content : Except Failure String) : Answer :=
  let loading := logLines i.verbose i.loadingEvents
  match i.report content with
  | .error failure => { lines := loading, failure := some failure }
  | .ok info =>
    let d := i.backend.dialect info
    (i.command.answer d).after
      (loading ++ logLines i.verbose (i.backend.dialectEvents info ++ i.command.events d))

end Invocation

end PortableSql.CommandLine
