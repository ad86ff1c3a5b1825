/-
RecordSieve.Settings.FileFormat — the formats of settings files, and how
a file and its format are found.

The ending of a file's name tells its format.  Where a path leads to no
file, the endings of all formats are tried behind it, so a name may be
given without its ending.  A file whose ending belongs to no format is
not found at all.

TOML and JSON documents are read here.  Of the other formats only the
endings are known, and a document of theirs has no reader; one that comes
from outside is given as a format of its own.
-/
import RecordSieve.Json.Reader
import RecordSieve.Settings.Setting
import RecordSieve.Toml.Reader

namespace RecordSieve

namespace Setting

mutual

/-- The setting that a JSON value stands for; an integer beyond 64 bits
with a sign becomes a double. -/
def ofJson : Json → Setting
  | .null => nil
  | .bool b => boolean b
  | .number (.integer i _) =>
    if Decimal.fitsInt64 i then integer i else decimal (.finite (.ofInt i))
  | .number (.double x) => decimal (.finite x)
  | .string s => text s
  | .array items => list (ofJsonItems items)
  | .object members => table (ofJsonMembers members)

/-- The settings that the items of an array stand for. -/
def ofJsonItems : List Json → List Setting
  | [] => []
  | item :: items => ofJson item :: ofJsonItems items

/-- The entries that the members of an object stand for. -/
def ofJsonMembers : List (String × Json) → List (String × Setting)
  | [] => []
  | (key, value) :: members => (key, ofJson value) :: ofJsonMembers members

end

end Setting

/-! ## Formats -/

/-- A format of settings files: the endings of their names, and how the
keys and settings of a document are read. -/
structure FileFormat where
  endings : List String
  reader? : Option (String → Option (List (String × Setting))) := none

namespace FileFormat

def toml : FileFormat where
  endings := ["toml"]
  reader? := some fun text => (Toml.Document.ofText? text.toList).map (·.settings)

/-- A JSON document of settings is one object. -/
def json : FileFormat where
  endings := ["json"]
  reader? := some fun text =>
    match Json.ofText? text with
    | some (.object members) => some (Setting.ofJsonMembers members)
    | _ => none

/-- The formats of settings files. -/
def known : List FileFormat :=
  [toml, json, { endings := ["yaml", "yml"] }, { endings := ["ini"] }, { endings := ["ron"] },
    { endings := ["json5"] }]

end FileFormat

/-! ## Endings -/

namespace SettingsFile

/-- A path cut before its last name; what follows that name and stays in
place is dropped.  There is no last name if it would be the enclosing
directory. -/
def cutName? (path : String) : Option (List (List Char) × List Char) :=
  let pieces := (Text.splitWhere (· == '/') path.toList).reverse
  match pieces.dropWhile fun piece => piece == [] || piece == ['.'] with
  | [] => none
  | name :: before => if name == ['.', '.'] then none else some (before.reverse, name)

/-- What follows the last point of a name that does not begin there. -/
def endingOfName? (name : List Char) : Option String :=
  match name.reverse.dropWhile (· != '.') with
  | '.' :: _ :: _ => some (String.ofList (name.reverse.takeWhile (· != '.')).reverse)
  | _ => none

/-- The ending of a path's last name. -/
def ending? (path : String) : Option String :=
  (cutName? path).bind fun (_, name) => endingOfName? name

/-- The path with an ending added to its last name. -/
def withEnding? (path ending : String) : Option String :=
  (cutName? path).map fun (before, name) =>
    String.ofList (['/'].intercalate (before ++ [name ++ '.' :: ending.toList]))

/-- The places where a file may be if there is none at the path itself,
with their formats. -/
def places (formats : List FileFormat) (path : String) : List (String × FileFormat) :=
  formats.flatMap fun format =>
    (format.endings.filterMap (withEnding? path)).map fun place => (place, format)

end SettingsFile

/-- A settings file: where it is, its format, and its text. -/
structure SettingsFile where
  place : String
  format : FileFormat
  text : String

namespace SettingsFile

/-- The settings file that a path stands for. -/
def find? (formats : List FileFormat) (file? : String → Option String) (path : String) :
    Option SettingsFile :=
  match file? path with
  | some text =>
    (ending? path).bind fun ending =>
      (formats.find? fun format => format.endings.contains ending).map fun format =>
        ⟨path, format, text⟩
  | none =>
    (places formats path).findSome? fun (place, format) =>
      (file? place).map fun text => ⟨place, format, text⟩

/-- The text of a file without the byte order mark that it may begin with. -/
def body (file : SettingsFile) : String :=
  let cs := file.text.toList
  if cs.head? == some '\uFEFF' then String.ofList cs.tail else file.text

end SettingsFile

end RecordSieve
