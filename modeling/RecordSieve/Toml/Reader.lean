/-
RecordSieve.Toml.Reader — reading a TOML document.

A document is a sequence of lines, each a header, an assignment or
blank, and any may end in a comment.  An assignment belongs to the table
of the last header.  Between the brackets of an array and the braces of
an inline table lines may break and comments may stand.
-/
import RecordSieve.Toml.Scalar
import RecordSieve.Toml.Strings
import RecordSieve.Toml.Tree

namespace RecordSieve.Toml

/-- Drops spaces, line breaks and comments from the front.  A control
character in a comment is left standing, where nothing accepts it. -/
def skipLines (comment : Bool) : List Char → List Char
  | [] => []
  | '\r' :: '\n' :: cs => skipLines false cs
  | c :: cs =>
    if c == '\n' then skipLines false cs
    else if comment then if isPlain c then skipLines true cs else c :: cs
    else if c == '#' then skipLines true cs
    else if isSpace c then skipLines false cs
    else c :: cs

/-- The text after the end of a line, where at most a comment stands. -/
def lineEnd? (cs : List Char) : Option (List Char) :=
  let rest :=
    match skipSpace cs with
    | '#' :: cs => cs.dropWhile isPlain
    | cs => cs
  if rest.isEmpty then some [] else newline? rest

mutual

/-- Reads a value. -/
def value? : Nat → List Char → Option (Setting × List Char)
  | 0, _ => none
  | fuel + 1, '[' :: cs => (items? fuel cs).map fun (items, rest) => (.list items, rest)
  | fuel + 1, '{' :: cs =>
    (pairs? fuel [] cs).map fun (names, rest) => (.table (Node.settings names), rest)
  | _ + 1, cs =>
    match string? cs with
    | some (s, rest) => some (.text (String.ofList s), rest)
    | none => scalar? cs

/-- Reads the items of an array, up to and with its closing bracket; a
comma may follow the last one. -/
def items? : Nat → List Char → Option (List Setting × List Char)
  | 0, _ => none
  | fuel + 1, cs =>
    match skipLines false cs with
    | ']' :: rest => some ([], rest)
    | cs => do
      let (item, rest) ← value? fuel cs
      match skipLines false rest with
      | ']' :: rest => return ([item], rest)
      | ',' :: rest =>
        let (items, rest) ← items? fuel rest
        return (item :: items, rest)
      | _ => none

/-- Reads the assignments of an inline table into its names, up to and
with its closing brace; a comma may follow the last one. -/
def pairs? : Nat → Names → List Char → Option (Names × List Char)
  | 0, _, _ => none
  | fuel + 1, names, cs =>
    match skipLines false cs with
    | '}' :: rest => some (names, rest)
    | cs => do
      let (keys, rest) ← keyPath? cs
      let '=' :: rest := skipLines false rest | none
      let (value, rest) ← value? fuel (skipLines false rest)
      let names ← names.assign? value keys
      match skipLines false rest with
      | '}' :: rest => return (names, rest)
      | ',' :: rest => pairs? fuel names rest
      | _ => none

end

/-- A document read so far: its tables, and the path of the last header. -/
structure Document where
  names : Names := []
  header : List String := []

namespace Document

/-- Adds what one line holds, and gives the text after the line. -/
def line? (d : Document) : List Char → Option (Document × List Char)
  | '[' :: '[' :: cs => do
    let (path, rest) ← keyPath? cs
    let ']' :: ']' :: rest := rest | none
    return (⟨← d.names.define? Names.nextTable? path, path⟩, ← lineEnd? rest)
  | '[' :: cs => do
    let (path, rest) ← keyPath? cs
    let ']' :: rest := rest | none
    return (⟨← d.names.define? Names.headTable? path, path⟩, ← lineEnd? rest)
  | cs => do
    let (keys, rest) ← keyPath? cs
    let '=' :: rest := rest | none
    let rest := skipSpace rest
    let (value, rest) ← value? (2 * rest.length + 2) rest
    return ({ d with names := ← d.names.within? (Names.assign? value keys) d.header },
      ← lineEnd? rest)

/-- Adds what the lines of a text hold, at most as many as the fuel. -/
def lines? : Nat → Document → List Char → Option Document
  | 0, _, _ => none
  | fuel + 1, d, cs =>
    match skipLines false cs with
    | [] => some d
    | cs => do
      let (d, rest) ← d.line? cs
      lines? fuel d rest

/-- The document of a text, which may begin with a byte order mark. -/
def ofText? (text : List Char) : Option Document :=
  let cs := if text.head? == some '\uFEFF' then text.tail else text
  lines? (cs.length + 1) {} cs

/-- The settings of a document. -/
def settings (d : Document) : List (String × Setting) := Node.settings d.names

end Document

end RecordSieve.Toml
