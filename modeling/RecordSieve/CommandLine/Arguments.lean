/-
RecordSieve.CommandLine.Arguments — reading the arguments of the program.

Arguments are read from left to right, first those before the command
and then those after it.  An option takes its value after an equals
sign, directly after its letter, or from the next argument; letters of
flags may share one dash.  What an option was given is looked at only
when the next switch or the end is reached, so of two faults the
unknown argument is met before the empty value left of it.
-/
import RecordSieve.CommandLine.Switch

namespace RecordSieve.CommandLine

/-- Why arguments lead to no command. -/
inductive UsageError where
  /-- Help was asked for. -/
  | helpAsked
  /-- The version was asked for. -/
  | versionAsked
  /-- There are no arguments. -/
  | nothingGiven
  /-- There are switches, but no command. -/
  | missingCommand
  /-- An argument where a command should stand names none. -/
  | unknownCommand
  /-- The command does not take the argument. -/
  | unknownArgument
  /-- An option has no value, or a path is empty. -/
  | missingValue
  /-- A switch is given twice. -/
  | repeated
  /-- A flag is given a value. -/
  | unexpectedValue
  /-- The command needs a switch that is not given. -/
  | missingSwitch
  deriving DecidableEq, Repr

/-- The wording of the error. -/
def UsageError.message : UsageError → String
  | helpAsked => "help"
  | versionAsked => "version"
  | nothingGiven => "no arguments"
  | missingCommand => "a command is required"
  | unknownCommand => "unrecognized command"
  | unknownArgument => "unexpected argument"
  | missingValue => "an option lacks its value"
  | repeated => "a switch cannot be used multiple times"
  | unexpectedValue => "a flag takes no value"
  | missingSwitch => "a required option was not given"

/-- What to change in the options of the settings. -/
structure Overrides where
  ignoreCase : Bool := false
  ignoreAccents : Bool := false
  locale : Option String := none
  deriving DecidableEq, Repr

/-- A command with what it needs. -/
inductive Command where
  | filter (rule : String) (data : Option String)
  | check (rule : String)
  | explain (rule data : String)
  deriving DecidableEq, Repr

/-- What the arguments ask for. -/
structure Invocation where
  config : Option String := none
  logLevel : Option String := none
  command : Command
  overrides : Overrides := {}
  deriving DecidableEq, Repr

/-- What has been given at one level: the switches looked at, with their
values, and the last option, which may still await its value. -/
structure Given where
  stored : List (Switch × String) := []
  pending : Option (Switch × Option String) := none
  deriving DecidableEq, Repr

namespace Given

/-- The value of a switch; a flag has the empty one. -/
def value? (given : Given) (s : Switch) : Option String := given.stored.lookup s

/-- Whether a flag is given. -/
def has (given : Given) (s : Switch) : Bool := (given.value? s).isSome

/-- Whether the last option awaits its value. -/
def isAwaiting (given : Given) : Bool :=
  match given.pending with
  | some (_, none) => true
  | _ => false

/-- Stores a switch with its value. -/
def store (given : Given) (s : Switch) (value : String) : Except UsageError Given :=
  if given.has s then .error .repeated
  else if s.takesPath && value.isEmpty then .error .missingValue
  else .ok { given with stored := given.stored ++ [(s, value)] }

/-- Looks at the last option. -/
def settle (given : Given) : Except UsageError Given :=
  match given.pending with
  | none => .ok given
  | some (_, none) => .error .missingValue
  | some (s, some value) => { given with pending := none }.store s value

/-- Takes a flag. -/
def takeFlag (given : Given) (s : Switch) : Except UsageError Given := do
  let given ← given.settle
  match s with
  | .help => .error .helpAsked
  | .version => .error .versionAsked
  | s => given.store s ""

/-- Takes an option with its value. -/
def takeOption (given : Given) (s : Switch) (value : String) : Except UsageError Given := do
  (← given.settle).store s value

/-- Takes an option whose value is the next argument. -/
def awaitOption (given : Given) (s : Switch) : Except UsageError Given := do
  return { ← given.settle with pending := some (s, none) }

/-- Takes an argument that is no switch, if an option awaits its value. -/
def takeValue? (given : Given) (value : String) : Option Given :=
  match given.pending with
  | some (s, none) => some { given with pending := some (s, some value) }
  | _ => none

/-- Takes what follows two dashes. -/
def takeLong (level : Level) (given : Given) (body : List Char) : Except UsageError Given :=
  let name := body.takeWhile (· != '=')
  match level.long? (String.ofList name), body.drop name.length with
  | none, _ => .error .unknownArgument
  | some s, [] => if s.takesValue then given.awaitOption s else given.takeFlag s
  | some s, _ :: value =>
    if s.takesValue then given.takeOption s (String.ofList value) else .error .unexpectedValue

/-- Takes what follows one dash: letters of flags, up to an option that
takes the rest as its value. -/
def takeLetters (level : Level) (given : Given) : List Char → Except UsageError Given
  | [] => .ok given
  | c :: cs =>
    match level.short? c with
    | none => .error .unknownArgument
    | some s =>
      if s.takesValue then
        match cs with
        | [] => given.awaitOption s
        | '=' :: value => given.takeOption s (String.ofList value)
        | value => given.takeOption s (String.ofList value)
      else do takeLetters level (← given.takeFlag s) cs

end Given

/-- Why an argument that is no switch cannot stand at a level. -/
def Level.strayError : Level → UsageError
  | .program => .unknownCommand
  | .command _ => .unknownArgument

/-- Why an argument cannot stand after the double dash, which ends the
switches and the search for a command. -/
def Level.trailingError (level : Level) (arg : String) : UsageError :=
  if level.isCommand arg then .unknownArgument else level.strayError

/-- Reads arguments up to a command: what they give, and the command
with the arguments after it, if there is one. -/
def scan (level : Level) (given : Given) :
    List String → Except UsageError (Given × Option (String × List String))
  | [] => .ok (given, none)
  | arg :: args =>
    if !given.isAwaiting && level.isCommand arg then .ok (given, some (arg, args))
    else
      match arg.toList with
      | ['-', '-'] =>
        match args with
        | [] => .ok (given, none)
        | stray :: _ => .error (level.trailingError stray)
      | '-' :: '-' :: body => do scan level (← given.takeLong level body) args
      | '-' :: c :: cs => do scan level (← given.takeLetters level (c :: cs)) args
      | _ =>
        match given.takeValue? arg with
        | some given => scan level given args
        | none => .error level.strayError

/-- What the arguments after a command give. -/
def scanCommand (name : CommandName) (args : List String) : Except UsageError Given := do
  let (given, _) ← scan (.command name) {} args
  given.settle

/-- The value of an option that a command needs. -/
def Given.required (given : Given) (s : Switch) : Except UsageError String :=
  match given.value? s with
  | some value => .ok value
  | none => .error .missingSwitch

/-- The command of a name with what its arguments give. -/
def CommandName.command (name : CommandName) (given : Given) : Except UsageError Command := do
  let rule ← given.required .rule
  match name with
  | .filter => return .filter rule (given.value? .data)
  | .check => return .check rule
  | .explain => return .explain rule (← given.required .data)

/-- What comes of asking for help on some commands, one inside the other:
commands have no commands inside, so there can be one at most. -/
def helpError : List String → UsageError
  | [] => .helpAsked
  | [name] => if Level.program.isCommand name then .helpAsked else .unknownCommand
  | _ => .unknownCommand

/-- What arguments ask for.  A switch that may stand on either side of
the command counts where it stands after it. -/
def Invocation.ofArguments (args : List String) : Except UsageError Invocation := do
  let (outer, next) ← scan .program {} args
  match next with
  | none =>
    let outer ← outer.settle
    .error (if outer.stored.isEmpty then .nothingGiven else .missingCommand)
  | some (word, rest) =>
    match CommandName.ofText? word with
    | none => .error (helpError rest)
    | some name =>
      let inner ← scanCommand name rest
      let command ← name.command inner
      let outer ← outer.settle
      return {
        config := inner.value? .config <|> outer.value? .config
        logLevel := inner.value? .logLevel <|> outer.value? .logLevel
        command := command
        overrides := ⟨inner.has .ignoreCase, inner.has .ignoreAccents, inner.value? .locale⟩ }

end RecordSieve.CommandLine
