/-
RecordSieve.Json.Writer — JSON text of a value, compact or indented.

Strings escape the quote, the backslash and the control characters below
U+0020, and nothing else.  A double is written positionally if it is at
least 10⁻⁵ and below 10¹⁶, and keeps `.0` if it is whole.  Of two
equally near last digits the even one is written.
-/
import RecordSieve.Decimal.Layout
import RecordSieve.Json.Basic

namespace RecordSieve

/-- Doubles in JSON text. -/
def JsonNumber.layout : Decimal.Layout where
  positional leading := -5 ≤ leading && leading < 16
  pointZero := true
  tie := .toEven

/-- The text of a JSON number. -/
def JsonNumber.write : JsonNumber → List Char
  | .integer i _ => Decimal.ofInt i
  | .double x => JsonNumber.layout.write x

namespace Json

/-- A hexadecimal digit in lower case, for a number below sixteen. -/
def hexChar (n : Nat) : Char := if n < 10 then Char.ofNat (48 + n) else Char.ofNat (87 + n)

/-- A character as it stands in a JSON string. -/
def escapeChar (c : Char) : List Char :=
  match c with
  | '"' => ['\\', '"']
  | '\\' => ['\\', '\\']
  | '\x08' => ['\\', 'b']
  | '\x0c' => ['\\', 'f']
  | '\n' => ['\\', 'n']
  | '\r' => ['\\', 'r']
  | '\t' => ['\\', 't']
  | c =>
    if c.toNat < 0x20 then
      ['\\', 'u', '0', '0', hexChar (c.toNat / 16), hexChar (c.toNat % 16)]
    else [c]

/-- A string between quotes. -/
def quote (s : String) : List Char := '"' :: s.toList.flatMap escapeChar ++ ['"']

mutual

/-- The compact text of a value: no white space, members in key order. -/
def compact : Json → List Char
  | null => "null".toList
  | bool true => "true".toList
  | bool false => "false".toList
  | number n => n.write
  | string s => quote s
  | array [] => ['[', ']']
  | array (item :: items) => '[' :: (compact item ++ compactItems items)
  | object [] => ['{', '}']
  | object ((key, value) :: members) =>
    '{' :: (quote key ++ ':' :: (compact value ++ compactMembers members))

/-- The further items of an array and its closing bracket. -/
def compactItems : List Json → List Char
  | [] => [']']
  | item :: items => ',' :: (compact item ++ compactItems items)

/-- The further members of an object and its closing brace. -/
def compactMembers : List (String × Json) → List Char
  | [] => ['}']
  | (key, value) :: members =>
    ',' :: (quote key ++ ':' :: (compact value ++ compactMembers members))

end

/-- A line break followed by two blanks for each level. -/
def newline (level : Nat) : List Char := '\n' :: List.replicate (2 * level) ' '

mutual

/-- The text of a value with one item or member to a line, indented by
two blanks a level; empty containers stay on one line. -/
def indented (level : Nat) : Json → List Char
  | array (item :: items) =>
    '[' :: (newline (level + 1) ++ indented (level + 1) item ++ indentedItems level items)
  | object ((key, value) :: members) =>
    '{' :: (newline (level + 1) ++ quote key ++ ':' :: ' ' ::
      (indented (level + 1) value ++ indentedMembers level members))
  | value => compact value

/-- The further items of an array at a level, and its closing bracket. -/
def indentedItems (level : Nat) : List Json → List Char
  | [] => newline level ++ [']']
  | item :: items =>
    ',' :: (newline (level + 1) ++ indented (level + 1) item ++ indentedItems level items)

/-- The further members of an object at a level, and its closing brace. -/
def indentedMembers (level : Nat) : List (String × Json) → List Char
  | [] => newline level ++ ['}']
  | (key, value) :: members =>
    ',' :: (newline (level + 1) ++ quote key ++ ':' :: ' ' ::
      (indented (level + 1) value ++ indentedMembers level members))

end

/-- The compact text of a value as a string. -/
def text (value : Json) : String := String.ofList value.compact

/-- The indented text of a value as a string. -/
def prettyText (value : Json) : String := String.ofList (value.indented 0)

end Json

end RecordSieve
