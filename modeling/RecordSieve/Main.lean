/-
RecordSieve.Main — the program `json-rules`.

It reads what the run may need, runs it, and prints what it printed.
-/
import RecordSieve.CommandLine.Program

namespace RecordSieve.Main

open CommandLine

/-- How the program is called. -/
def usage : String :=
  "JSON 规则评估工具\n\n" ++
  "Usage: json-rules [--config <CONFIG>] [-l <LOG_LEVEL>] <COMMAND>\n\n" ++
  "Commands:\n" ++
  "  filter   -r <RULE> [-d <DATA>] [OPTIONS]\n" ++
  "  check    -r <RULE> [OPTIONS]\n" ++
  "  explain  -r <RULE> -d <DATA> [OPTIONS]\n\n" ++
  "Options: [--ignore-case] [--ignore-accents] [--locale <LOCALE>] [-h] [-V]"

/-- The text of a file, if it can be read. -/
def readFile? (path : String) : IO (Option String) := do
  try return some (← IO.FS.readFile path) catch _ => return none

/-- The variables that decide where settings are found or hold a setting. -/
def variableNames : List String :=
  ["ENV", "CONFIG_DIR", "ENVIRONMENT", "OPTIONS", "OPTIONS__LOCALE", "OPTIONS__COMPARE",
    "OPTIONS__COMPARE__IGNORE_CASE", "OPTIONS__COMPARE__IGNORE_ACCENTS", "OBSERVABILITY",
    "OBSERVABILITY__LOG_LEVEL", "OBSERVABILITY__LOG_FORMAT"].map ("JSON_RULES_" ++ ·)

/-- The variables of this process; where the system does not list them,
those with the name of a setting. -/
def readVariables : IO (List (String × String)) := do
  match ← readFile? "/proc/self/environ" with
  | some text =>
    return (Text.splitWhere (· == '\x00') text.toList).map fun piece =>
      (String.ofList (piece.takeWhile (· != '=')), String.ofList (piece.dropWhile (· != '=')).tail)
  | none =>
    variableNames.filterMapM fun name => do
      return (← IO.getEnv name).map fun value => (name, value)

/-- The files at some paths. -/
def readFiles (paths : List String) : IO (String → Option String) := do
  let found ← paths.filterMapM fun path => do
    return (← readFile? path).map fun text => (path, text)
  return fun path => found.lookup path

/-- The text of standard input. -/
partial def readStandardInput (input : IO.FS.Stream) (text : String) : IO String := do
  let line ← input.getLine
  if line.isEmpty then return text else readStandardInput input (text ++ line)

/-- Answers arguments that lead to no command. -/
def answerUsage : UsageError → IO UInt32
  | .helpAsked => do IO.println usage; return 0
  | .versionAsked => do IO.println "json-rules 0.1.0"; return 0
  | .nothingGiven => do IO.eprintln usage; return 2
  | error => do IO.eprintln ("error: " ++ error.message ++ "\n\n" ++ usage); return 2

/-- Prints what a run printed, and why it failed if it did. -/
def conclude : Ending → IO UInt32
  | .usage error => answerUsage error
  | .unsettled _ => do IO.eprintln "Error: 加载配置失败"; return 1
  | .ran _ result printed => do
    IO.print printed
    match result with
    | .ok _ => return 0
    | .error (.refused error) => do IO.eprintln ("Error: " ++ error.message); return 1
    | .error (.aborted _) => return 101

end RecordSieve.Main

open RecordSieve RecordSieve.Main RecordSieve.CommandLine

/-- Runs the program. -/
def main (args : List String) : IO UInt32 := do
  match Invocation.ofArguments args with
  | .error error => answerUsage error
  | .ok invocation =>
    let envVars ← readVariables
    let file? ← readFiles (invocation.paths envVars)
    let standardInput ←
      if invocation.readsStandardInput then readStandardInput (← IO.getStdin) "" else pure ""
    conclude (invocation.run ⟨file?, envVars, standardInput⟩)
