/-
RecordSieve.Settings.Basic — the settings of the program and how they
are found.

From the lowest to the highest, settings come from the defaults, from
`default.toml` and from the file of the environment's name, both in the
directory of settings, from a file named on the command line, and from
environment variables.  The two files of the directory may be absent; a
file that is found must be a document of its format.
-/
import RecordSieve.Options
import RecordSieve.Settings.FileFormat
import RecordSieve.Settings.Layer

namespace RecordSieve

/-- What the program logs and how. -/
structure LogSettings where
  level : String := "warn"
  format : String := "pretty"
  deriving DecidableEq, Repr

/-- Whether logs are written as JSON. -/
def LogSettings.isJson (log : LogSettings) : Bool := Text.sameName log.format "json"

/-- The settings of the program. -/
structure Settings where
  environment : String := ""
  options : RuleOptions := {}
  log : LogSettings := {}
  deriving DecidableEq

/-- Why there are no settings. -/
inductive SettingsError where
  /-- The file named on the command line is not found. -/
  | missing (path : String)
  /-- Documents of the file's format cannot be read here. -/
  | unreadable (path : String)
  /-- The file is no document of its format. -/
  | malformed (path : String)
  /-- A setting is not of the kind that its name asks for. -/
  | wrongKind
  deriving DecidableEq, Repr

/-- What a run of the program can see. -/
structure Surroundings where
  /-- The text of the file at a path. -/
  file? : String → Option String
  envVars : List (String × String) := []
  standardInput : String := ""

namespace Settings

/-! ## Reading settings from a tree -/

/-- Reads a field of a group; an absent one has its default. -/
def field? {α : Type} (read : Setting → Option α) (absent : α) (name : String)
    (fields : List (String × Setting)) : Option α :=
  match fields.lookup name with
  | some s => read s
  | none => some absent

/-- The comparison flags of a group of settings. -/
def compareOf? (s : Setting) : Option CompareFlags := do
  let fields ← s.fields? ["ignore_case", "ignore_accents"]
  return ⟨← field? Setting.asBool? false "ignore_case" fields,
    ← field? Setting.asBool? false "ignore_accents" fields⟩

/-- The options of a group of settings. -/
def optionsOf? (s : Setting) : Option RuleOptions := do
  let fields ← s.fields? ["locale", "compare"]
  return ⟨Locale.ofTag (← field? Setting.asText? "" "locale" fields),
    ← field? compareOf? {} "compare" fields⟩

/-- What to log, of a group of settings. -/
def logOf? (s : Setting) : Option LogSettings := do
  let fields ← s.fields? ["log_level", "log_format"]
  return ⟨← field? Setting.asText? "warn" "log_level" fields,
    ← field? Setting.asText? "pretty" "log_format" fields⟩

/-- The settings of a tree; names without a meaning are passed over. -/
def ofSetting? (s : Setting) : Option Settings := do
  let fields ← s.fields? ["environment", "options", "observability"]
  return ⟨← field? Setting.asText? "" "environment" fields,
    ← field? optionsOf? {} "options" fields, ← field? logOf? {} "observability" fields⟩

/-! ## Finding the sources -/

/-- The sources of settings that have keys. -/
inductive Source where
  | default
  | environment
  | named
  | envVars
  deriving DecidableEq, Repr

/-- What the settings depend on beside the texts of their sources. -/
structure Conventions where
  /-- The formats of files, in the order in which their endings are tried. -/
  formats : List FileFormat := FileFormat.known
  /-- The order in which the keys of each source are applied. -/
  keyOrder : Source → KeyOrder := fun _ => .asGiven
  /-- What an empty table does to a value below it. -/
  emptyTables : Setting.EmptyTables := .replace

/-- The layer of the file at a path; a file that is not found gives nothing. -/
def fileLayer (conventions : Conventions) (file? : String → Option String) (source : Source)
    (path : String) : Except SettingsError Layer :=
  match SettingsFile.find? conventions.formats file? path with
  | none => .ok []
  | some file =>
    match file.format.reader? with
    | none => .error (.unreadable file.place)
    | some read? =>
      match read? file.body with
      | some entries => .ok (.ofEntries (conventions.keyOrder source) entries)
      | none => .error (.malformed file.place)

/-- The layer of the file named on the command line, if one is; it must be
found. -/
def namedLayer (conventions : Conventions) (file? : String → Option String) :
    Option String → Except SettingsError Layer
  | none => .ok []
  | some path =>
    if (SettingsFile.find? conventions.formats file? path).isSome then
      fileLayer conventions file? .named path
    else .error (.missing path)

/-- The path of a file in a directory; a path from the root stays as it is. -/
def pathIn (directory file : String) : String :=
  if file.toList.head? == some '/' || directory == "" then file
  else if directory.toList.getLast? == some '/' then directory ++ file
  else directory ++ "/" ++ file

/-- The name of the environment. -/
def environmentName (envVars : List (String × String)) : String :=
  (envVars.lookup "JSON_RULES_ENV").getD "development"

/-- The directory of settings. -/
def directory (envVars : List (String × String)) : String :=
  (envVars.lookup "JSON_RULES_CONFIG_DIR").getD "config"

/-- The layers of the settings, the lowest first. -/
def layers (conventions : Conventions) (surroundings : Surroundings) (named : Option String) :
    Except SettingsError (List Layer) := do
  let name := environmentName surroundings.envVars
  let place := pathIn (directory surroundings.envVars)
  return [[⟨⟨"environment", []⟩, .text name⟩],
    ← fileLayer conventions surroundings.file? .default (place "default.toml"),
    ← fileLayer conventions surroundings.file? .environment (place (name ++ ".toml")),
    ← namedLayer conventions surroundings.file? named,
    .ofEntries (conventions.keyOrder .envVars) (Layer.entriesOfVariables surroundings.envVars)]

/-- The settings for a run of the program, with the file that the command
line names. -/
def load (surroundings : Surroundings) (named : Option String)
    (conventions : Conventions := {}) : Except SettingsError Settings := do
  let sources ← layers conventions surroundings named
  match ofSetting? (Setting.ofLayers conventions.emptyTables sources) with
  | some settings => return settings
  | none => throw .wrongKind

end Settings

end RecordSieve
