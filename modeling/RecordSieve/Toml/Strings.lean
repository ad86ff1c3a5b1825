/-
RecordSieve.Toml.Strings — the strings and keys of TOML.

A string stands between quotes or apostrophes, one of them or three.
Quotes allow escapes and apostrophes none; three allow line breaks.  A
key is a word of letters, digits, underscores and dashes, or a one-line
string; keys joined with points name a table in a table.
-/
import RecordSieve.Text.Escape

namespace RecordSieve.Toml

open Text

/-- Whether `c` separates words on a line. -/
def isSpace (c : Char) : Bool := c == ' ' || c == '\t'

/-- The text without leading spaces and tabs. -/
def skipSpace (cs : List Char) : List Char := cs.dropWhile isSpace

/-- Whether `c` may stand in strings and comments: all but control
characters, of which only the tab is allowed. -/
def isPlain (c : Char) : Bool := c == '\t' || 0x20 ≤ c.toNat && c.toNat != 0x7F

/-- The text after the line break at its front. -/
def newline? : List Char → Option (List Char)
  | '\n' :: cs => some cs
  | '\r' :: '\n' :: cs => some cs
  | _ => none

/-- The character whose number has these hexadecimal digits. -/
def charOfHex? (digits : List Char) : Option Char := do
  let n ← digits.foldlM (fun n c => (hexDigit? c).map (16 * n + ·)) 0
  if n.isValidChar then some (Char.ofNat n) else none

/-- The character that a one-letter escape stands for. -/
def escaped? : Char → Option Char
  | '"' => some '"'
  | '\\' => some '\\'
  | 'b' => some '\x08'
  | 'e' => some '\x1b'
  | 't' => some '\t'
  | 'n' => some '\n'
  | 'f' => some '\x0c'
  | 'r' => some '\r'
  | _ => none

/-- The end of a string in triple quotes, whose first closing quote has
been read: up to two quotes may stand before the three that close it. -/
def tripleEnd? (quote : Char) : List Char → Option (List Char × List Char)
  | a :: b :: cs =>
    if a == quote && b == quote then
      match cs with
      | c :: d :: rest =>
        if c == quote && d == quote then some ([quote, quote], rest)
        else if c == quote then some ([quote], d :: rest)
        else some ([], cs)
      | [c] => if c == quote then some ([quote], []) else some ([], cs)
      | [] => some ([], [])
    else none
  | _ => none

/-- Whether a backslash before this text takes the line break away: only
spaces stand before the end of the line. -/
def endsLine (cs : List Char) : Bool := (newline? (skipSpace cs)).isSome

/-- Reads a string between quotes, up to and with its end.  While
`skipping`, white space after a removed line break is dropped. -/
def quotedTail? (triple skipping : Bool) : List Char → Option (List Char × List Char)
  | [] => none
  | '"' :: cs =>
    if triple then
      match tripleEnd? '"' cs with
      | some found => some found
      | none => withChar '"' (quotedTail? triple false cs)
    else some ([], cs)
  | '\\' :: 'x' :: a :: b :: cs => do
    withChar (← charOfHex? [a, b]) (quotedTail? triple false cs)
  | '\\' :: 'u' :: a :: b :: c :: d :: cs => do
    withChar (← charOfHex? [a, b, c, d]) (quotedTail? triple false cs)
  | '\\' :: 'U' :: a :: b :: c :: d :: e :: f :: g :: h :: cs => do
    withChar (← charOfHex? [a, b, c, d, e, f, g, h]) (quotedTail? triple false cs)
  | '\\' :: c :: cs =>
    match escaped? c with
    | some e => withChar e (quotedTail? triple false cs)
    | none => if triple && endsLine (c :: cs) then quotedTail? triple true cs else none
  | '\r' :: '\n' :: cs =>
    if !triple then none
    else if skipping then quotedTail? triple true cs
    else withChar '\n' (quotedTail? triple false cs)
  | c :: cs =>
    if triple && c == '\n' || isPlain c then
      if skipping && (c == '\n' || isSpace c) then quotedTail? triple true cs
      else withChar c (quotedTail? triple false cs)
    else none

/-- Reads a string between apostrophes, up to and with its end. -/
def literalTail? (triple : Bool) : List Char → Option (List Char × List Char)
  | [] => none
  | '\'' :: cs =>
    if triple then
      match tripleEnd? '\'' cs with
      | some found => some found
      | none => withChar '\'' (literalTail? triple cs)
    else some ([], cs)
  | '\r' :: '\n' :: cs => if triple then withChar '\n' (literalTail? triple cs) else none
  | c :: cs =>
    if triple && c == '\n' || isPlain c then withChar c (literalTail? triple cs) else none

/-- The text without the line break at its front, if it has one. -/
def dropNewline (cs : List Char) : List Char := (newline? cs).getD cs

/-- Reads a string of any form. -/
def string? : List Char → Option (List Char × List Char)
  | '"' :: '"' :: '"' :: cs => quotedTail? true false (dropNewline cs)
  | '"' :: cs => quotedTail? false false cs
  | '\'' :: '\'' :: '\'' :: cs => literalTail? true (dropNewline cs)
  | '\'' :: cs => literalTail? false cs
  | _ => none

/-- Whether `c` may stand in a key without quotes. -/
def isKeyChar (c : Char) : Bool :=
  'a' ≤ c && c ≤ 'z' || 'A' ≤ c && c ≤ 'Z' || '0' ≤ c && c ≤ '9' || c == '_' || c == '-'

/-- Reads one key. -/
def key? : List Char → Option (List Char × List Char)
  | '"' :: cs => quotedTail? false false cs
  | '\'' :: cs => literalTail? false cs
  | cs =>
    let word := cs.takeWhile isKeyChar
    if word.isEmpty then none else some (word, cs.dropWhile isKeyChar)

/-- Reads keys joined with points, at most as many as the fuel. -/
def keys? : Nat → List Char → Option (List String × List Char)
  | 0, _ => none
  | fuel + 1, cs => do
    let (key, rest) ← key? (skipSpace cs)
    match skipSpace rest with
    | '.' :: rest =>
      let (keys, rest) ← keys? fuel rest
      return (String.ofList key :: keys, rest)
    | rest => return ([String.ofList key], rest)

/-- Reads keys joined with points; there are no more than characters. -/
def keyPath? (cs : List Char) : Option (List String × List Char) := keys? (cs.length + 1) cs

end RecordSieve.Toml
