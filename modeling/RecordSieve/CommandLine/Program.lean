/-
RecordSieve.CommandLine.Program — a whole run of the program, from the
arguments to what it prints.

Arguments are looked at first, then the settings, then the command runs.
-/
import RecordSieve.CommandLine.Report

namespace RecordSieve.CommandLine

/-- How a run of the program ends. -/
inductive Ending where
  /-- The arguments lead to no command. -/
  | usage (error : UsageError)
  /-- There are no settings. -/
  | unsettled (error : SettingsError)
  /-- A command has run: how it came out, and what it printed. -/
  | ran (logLevel : Option String) (result : Attempt CommandError (Option Nat)) (printed : String)

/-- Runs the command of an invocation. -/
def Invocation.run (surroundings : Surroundings) (invocation : Invocation) : Ending :=
  match Settings.load surroundings invocation.config with
  | .error error => .unsettled error
  | .ok settings =>
    let options := invocation.overrides.applyTo settings.options
    let (result, printed) := Printing.outcome (invocation.command.run surroundings options)
    .ran invocation.logLevel result printed

/-- The paths of the files that a run may read: all places of the files of
settings, and those that the command names. -/
def Invocation.paths (envVars : List (String × String)) (invocation : Invocation) : List String :=
  let place := Settings.pathIn (Settings.directory envVars)
  let settings := place "default.toml" :: place (Settings.environmentName envVars ++ ".toml") ::
    invocation.config.toList
  let inputs :=
    match invocation.command with
    | .filter rule data => rule :: data.toList
    | .check rule => [rule]
    | .explain rule data => [rule, data]
  let endings := fun path => (SettingsFile.places FileFormat.known path).map Prod.fst
  settings ++ settings.flatMap endings ++ inputs

/-- Whether a run reads standard input. -/
def Invocation.readsStandardInput (invocation : Invocation) : Bool :=
  match invocation.command with
  | .filter _ none => true
  | .filter _ (some data) | .explain _ data => isStandardInput data
  | .check _ => false

/-- Runs the program with some arguments. -/
def run (surroundings : Surroundings) (args : List String) : Ending :=
  match Invocation.ofArguments args with
  | .error error => .usage error
  | .ok invocation => invocation.run surroundings

end RecordSieve.CommandLine
