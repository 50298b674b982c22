import AgentPipeline.Command.Outcome
import AgentPipeline.Command.Reading
import AgentPipeline.Simulation.Server
import Std.Time.Format

/-!
# The program

Reads the files and variables that a command may look at, performs the command and prints what it
leaves behind.  The program has no connection to the vendors of its own: a request that can be built
counts as dropped.
-/

namespace AgentPipeline.Program

/-- What is found under a path. -/
def readPath (path : String) : IO FileContent := do
  try
    return .bytes (← IO.FS.readBinFile path)
  catch
    | .noFileOrDirectory .. => return .missing
    | _ => return .unreadable

/-- The variables among the given names that are set. -/
def readVariables (names : List String) : IO Environment :=
  names.filterMapM fun name => do
    return (← IO.getEnv name).map (name, ·)

/-- A number of random hexadecimal digits. -/
def randomDigits (count : Nat) : IO String := do
  let n ← IO.rand 0 (Nat.pow 16 count - 1)
  let digits := Nat.toDigits 16 n
  return String.ofList (List.replicate (count - digits.length) '0' ++ digits)

/-- A random name for a run, in five groups of digits of which the third and the fourth begin with
the marks of a random name. -/
def freshRunId : IO String := do
  let mark := Nat.toDigits 16 (← IO.rand 8 11)
  let groups := [← randomDigits 8, ← randomDigits 4, "4" ++ (← randomDigits 3),
    String.ofList mark ++ (← randomDigits 3), ← randomDigits 12]
  return "-".intercalate groups

/-- What a command can see. -/
def surroundings (line : CommandLine) : IO Surroundings := do
  let files ← line.command.paths.mapM fun path => return (path, ← readPath path)
  let file (path : String) : FileContent := (files.lookup path).getD .missing
  return {
    file
    env := ← readVariables (line.command.variables file)
    coloured := !line.noColour && (← (← IO.getStdout).isTty)
    timeOfDay := some ((← Std.Time.PlainDateTime.now).format "uuuu-MM-dd HH:mm:ss")
    runId := ← freshRunId }

/-- Whether the events of a run are shown: only with a report in text, and only on a terminal. -/
def showsEvents (line : CommandLine) : IO Bool := do
  match line.command with
  | .run { output := .text, .. } => return !line.quiet && (← (← IO.getStderr).isTty)
  | _ => return false

/-- Performs a command and prints what it leaves behind. -/
def perform (line : CommandLine) : IO UInt32 := do
  let seen ← surroundings line
  let (printed, _) := line.command.perform ScriptedServer.backend { replies := [] } seen
  if ← showsEvents line then
    for event in printed.events do
      IO.eprintln (event.line seen.coloured)
  IO.print printed.text
  if let some failure := printed.failure then
    IO.eprintln ("Error: " ++ failure.message)
  return printed.exitCode.toUInt32

end AgentPipeline.Program

open AgentPipeline in
/-- The program: a command line that amounts to no command is explained, any other is performed. -/
def main (words : List String) : IO UInt32 := do
  match CommandLine.ofWords words with
  | .ok line => Program.perform line
  | .error usage =>
    if usage.exitCode = 0 then IO.println usage.message else IO.eprintln usage.message
    return usage.exitCode.toUInt32
