import PortableSql.CommandLine.Answer

/-! The program that shows what a dialect writes. It reads the file that its arguments name,
and prints the answer. -/

open PortableSql PortableSql.CommandLine

/-- The options that environment variables set. -/
def readEnvironment : IO Environment := do
  return {
    backend := ← IO.getEnv "PORTABLE_SQL_BACKEND"
    reportFile := ← IO.getEnv "PORTABLE_SQL_RESOLUTION_INFO" }

/-- The text of a file. -/
def readReport (path : String) : IO (Except Failure String) := do
  try return .ok (← IO.FS.readFile path)
  catch _ => return .error .unreadableFile

def main (arguments : List String) : IO UInt32 := do
  match Invocation.parse? (← readEnvironment) arguments with
  | none =>
    IO.eprintln "invalid command line"
    return usageExitCode.toUInt32
  | some invocation =>
    let content ← match invocation.reportFile with
      | some path => readReport path
      | none => pure (.ok "")
    let answer := invocation.answer content
    IO.print answer.output
    match answer.failure with
    | some failure => IO.eprintln ("Error: " ++ failure.message)
    | none => pure ()
    return answer.exitCode.toUInt32
