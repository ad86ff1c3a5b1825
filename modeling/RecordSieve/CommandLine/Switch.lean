/-
RecordSieve.CommandLine.Switch — the switches and commands of the
command line, and which command takes which switches.
-/

namespace RecordSieve.CommandLine

/-- A switch: a flag, or an option that takes a value. -/
inductive Switch where
  | config
  | logLevel
  | rule
  | data
  | ignoreCase
  | ignoreAccents
  | locale
  | help
  | version
  deriving DecidableEq, Repr

namespace Switch

/-- The name after two dashes. -/
def long : Switch → String
  | config => "config"
  | logLevel => "log-level"
  | rule => "rule"
  | data => "data"
  | ignoreCase => "ignore-case"
  | ignoreAccents => "ignore-accents"
  | locale => "locale"
  | help => "help"
  | version => "version"

/-- The letter after one dash, if the switch has one. -/
def short? : Switch → Option Char
  | logLevel => some 'l'
  | rule => some 'r'
  | data => some 'd'
  | help => some 'h'
  | version => some 'V'
  | config | ignoreCase | ignoreAccents | locale => none

/-- Whether the switch takes a value. -/
def takesValue : Switch → Bool
  | config | logLevel | rule | data | locale => true
  | ignoreCase | ignoreAccents | help | version => false

/-- Whether the value is a path, which cannot be empty. -/
def takesPath : Switch → Bool
  | config | rule | data => true
  | _ => false

end Switch

/-- The name of a command. -/
inductive CommandName where
  | filter
  | check
  | explain
  deriving DecidableEq, Repr

namespace CommandName

/-- The command of a name, which is matched as it stands. -/
def ofText? : String → Option CommandName
  | "filter" => some filter
  | "check" => some check
  | "explain" => some explain
  | _ => none

/-- The switches of the command alone. -/
def ownSwitches : CommandName → List Switch
  | check => [.rule, .ignoreCase, .ignoreAccents, .locale]
  | filter | explain => [.rule, .data, .ignoreCase, .ignoreAccents, .locale]

end CommandName

/-- Where an argument stands: before the command or after it. -/
inductive Level where
  | program
  | command (name : CommandName)
  deriving DecidableEq, Repr

namespace Level

/-- The switches that may be given at a level. -/
def switches : Level → List Switch
  | program => [.config, .logLevel, .help, .version]
  | command name => name.ownSwitches ++ [.config, .logLevel, .help, .version]

/-- The switch of a long name. -/
def long? (level : Level) (name : String) : Option Switch :=
  level.switches.find? fun s => s.long == name

/-- The switch of a letter. -/
def short? (level : Level) (letter : Char) : Option Switch :=
  level.switches.find? fun s => s.short? == some letter

/-- Whether an argument names a command, or asks for help on one. -/
def isCommand (level : Level) (arg : String) : Bool :=
  level == program && (arg == "help" || (CommandName.ofText? arg).isSome)

end Level

end RecordSieve.CommandLine
