/-
RecordSieve.Json.Reader — reading JSON text.

The reader accepts exactly one value with white space around it.
Containers may be nested 127 deep.  An escape that names half of a
surrogate pair is refused, as are raw control characters in strings and
numbers too large for a double.
-/
import RecordSieve.Json.Numeral
import RecordSieve.Text.Escape

namespace RecordSieve.Json

namespace Reader

open Text

/-- The white space between tokens. -/
def isSpace (c : Char) : Bool := c == ' ' || c == '\n' || c == '\t' || c == '\r'

/-- The text without leading white space. -/
def skipSpace (cs : List Char) : List Char := cs.dropWhile isSpace

/-- The value of four hexadecimal digits. -/
def hex4? (a b c d : Char) : Option Nat := do
  return 4096 * (← hexDigit? a) + 256 * (← hexDigit? b) + 16 * (← hexDigit? c) + (← hexDigit? d)

/-- Whether a 16-bit unit is the first half of a surrogate pair. -/
def isHighSurrogate (n : Nat) : Bool := 0xD800 ≤ n && n < 0xDC00

/-- Whether a 16-bit unit is the second half of a surrogate pair. -/
def isLowSurrogate (n : Nat) : Bool := 0xDC00 ≤ n && n < 0xE000

/-- The character of a surrogate pair. -/
def pairChar (high low : Nat) : Char :=
  Char.ofNat (0x10000 + (high - 0xD800) * 0x400 + (low - 0xDC00))

/-- The character that a one-letter escape stands for. -/
def escaped? : Char → Option Char
  | '"' => some '"'
  | '\\' => some '\\'
  | '/' => some '/'
  | 'b' => some '\x08'
  | 'f' => some '\x0c'
  | 'n' => some '\n'
  | 'r' => some '\r'
  | 't' => some '\t'
  | _ => none

/-- Reads a string whose opening quote has been read, up to and with its
closing quote. -/
def stringTail? : List Char → Option (List Char × List Char)
  | [] => none
  | '"' :: rest => some ([], rest)
  | '\\' :: 'u' :: a :: b :: c :: d :: rest =>
    match hex4? a b c d with
    | none => none
    | some n =>
      if isLowSurrogate n then none
      else if isHighSurrogate n then
        match rest with
        | '\\' :: 'u' :: e :: f :: g :: h :: rest =>
          match hex4? e f g h with
          | some m => if isLowSurrogate m then withChar (pairChar n m) (stringTail? rest) else none
          | none => none
        | _ => none
      else withChar (Char.ofNat n) (stringTail? rest)
  | '\\' :: c :: rest =>
    match escaped? c with
    | some e => withChar e (stringTail? rest)
    | none => none
  | c :: rest => if c.toNat < 0x20 then none else withChar c (stringTail? rest)

/-- Drops a fixed word from the front. -/
def word? (word : List Char) (cs : List Char) : Option (List Char) :=
  if word.isPrefixOf cs then some (cs.drop word.length) else none

mutual

/-- Reads one value after optional white space, with containers at most
`depth` deep. -/
def value? : Nat → Nat → List Char → Option (Json × List Char)
  | 0, _, _ => none
  | fuel + 1, depth, cs =>
    match skipSpace cs with
    | '"' :: cs => (stringTail? cs).map fun (s, rest) => (string (String.ofList s), rest)
    | '[' :: cs =>
      match depth, skipSpace cs with
      | 0, _ => none
      | _ + 1, ']' :: rest => some (array [], rest)
      | depth + 1, cs => (items? fuel depth cs).map fun (items, rest) => (array items, rest)
    | '{' :: cs =>
      match depth, skipSpace cs with
      | 0, _ => none
      | _ + 1, '}' :: rest => some (object [], rest)
      | depth + 1, cs => (members? fuel depth cs).map fun (ms, rest) => (ofMembers ms, rest)
    | 'n' :: cs => (word? "ull".toList cs).map fun rest => (null, rest)
    | 't' :: cs => (word? "rue".toList cs).map fun rest => (bool true, rest)
    | 'f' :: cs => (word? "alse".toList cs).map fun rest => (bool false, rest)
    | cs => (Numeral.read? cs).map fun (n, rest) => (number n, rest)

/-- Reads one or more values between commas, up to and with the closing bracket. -/
def items? : Nat → Nat → List Char → Option (List Json × List Char)
  | 0, _, _ => none
  | fuel + 1, depth, cs => do
    let (item, rest) ← value? fuel depth cs
    match skipSpace rest with
    | ']' :: rest => return ([item], rest)
    | ',' :: rest =>
      let (items, rest) ← items? fuel depth rest
      return (item :: items, rest)
    | _ => none

/-- Reads one or more members between commas, up to and with the closing brace. -/
def members? : Nat → Nat → List Char → Option (List (String × Json) × List Char)
  | 0, _, _ => none
  | fuel + 1, depth, cs => do
    let '"' :: cs := skipSpace cs | none
    let (key, rest) ← stringTail? cs
    let ':' :: rest := skipSpace rest | none
    let (item, rest) ← value? fuel depth rest
    match skipSpace rest with
    | '}' :: rest => return ([(String.ofList key, item)], rest)
    | ',' :: rest =>
      let (members, rest) ← members? fuel depth rest
      return ((String.ofList key, item) :: members, rest)
    | _ => none

end

end Reader

/-- How deep containers may be nested. -/
def maxDepth : Nat := 127

/-- The value of a JSON text, with containers at most `depth` deep.
Each step of the reader takes a character at least every second time, so
twice the length is fuel enough. -/
def readToDepth? (depth : Nat) (cs : List Char) : Option Json := do
  let (value, rest) ← Reader.value? (2 * cs.length + 2) depth cs
  if (Reader.skipSpace rest).isEmpty then some value else none

/-- The value of a JSON text. -/
def ofText? (text : String) : Option Json := readToDepth? maxDepth text.toList

end RecordSieve.Json
