/-
RecordSieve.Toml.Scalar — the TOML values that are written as one bare
word: truth values, numbers and timestamps.

Whole numbers are signed 64-bit integers, in base ten or after `0x`,
`0o` or `0b`.  Single underscores may stand between digits.  A timestamp
is a date, a time of day or both with an offset; settings know it only
as its text, which is written in one way.
-/
import RecordSieve.Calendar.Date
import RecordSieve.Settings.Setting
import RecordSieve.Text.Escape
import RecordSieve.Text.Segment

namespace RecordSieve.Toml

open Decimal

/-- The digits of a run of digits in which single underscores stand
between digits. -/
def digitRun? (isDigit : Char → Bool) (cs : List Char) : Option (List Char) :=
  let pieces := Text.splitWhere (· == '_') cs
  if pieces.all fun piece => !piece.isEmpty && piece.all isDigit then some pieces.flatten else none

/-- The digits of a number in base ten, which does not begin with an
idle zero. -/
def wholeDigits? (cs : List Char) : Option (List Char) := do
  let ds ← digitRun? isAsciiDigit cs
  if ds.head? == some '0' && ds.length != 1 then none else some ds

/-- The value of digits in a base up to sixteen. -/
def valueInBase (base : Nat) (ds : List Char) : Nat :=
  ds.foldl (fun n c => base * n + (Text.hexDigit? c).getD 0) 0

/-- Whether `c` is a digit in a base up to sixteen. -/
def isDigitInBase (base : Nat) (c : Char) : Bool :=
  match Text.hexDigit? c with
  | some n => n < base
  | none => false

/-- The whole number of a word. -/
def integer? (word : List Char) : Option Int :=
  let inBase (base : Nat) (cs : List Char) : Option Int :=
    (digitRun? (isDigitInBase base) cs).map fun ds => (valueInBase base ds : Int)
  let number :=
    match word with
    | '0' :: 'x' :: cs => inBase 16 cs
    | '0' :: 'o' :: cs => inBase 8 cs
    | '0' :: 'b' :: cs => inBase 2 cs
    | cs =>
      let (negative, body) := splitSign cs
      (wholeDigits? body).bind natOfDigits? |>.map fun n => if negative then -(n : Int) else n
  number.filter fitsInt64

/-- Whether `c` may stand in a run of digits. -/
def isRunChar (c : Char) : Bool := isAsciiDigit c || c == '_'

/-- The fraction at the front of a text, with its point, and what
follows; the fraction may be absent. -/
def fraction? : List Char → Option (List Char × List Char)
  | '.' :: cs =>
    (digitRun? isAsciiDigit (cs.takeWhile isRunChar)).map fun ds =>
      ('.' :: ds, cs.dropWhile isRunChar)
  | cs => some ([], cs)

/-- The exponent part that a text is, without underscores; it may be absent. -/
def exponent? : List Char → Option (List Char)
  | [] => some []
  | c :: cs =>
    if c == 'e' || c == 'E' then
      let (negative, body) := splitSign cs
      (digitRun? isAsciiDigit body).map fun ds => if negative then 'e' :: '-' :: ds else 'e' :: ds
    else none

/-- The number with a fraction or an exponent that a word is. -/
def decimal? (word : List Char) : Option LiteralValue := do
  let (negative, body) := splitSign word
  if body == "inf".toList then return .infinite negative
  if body == "nan".toList then return .notANumber
  let whole ← wholeDigits? (body.takeWhile isRunChar)
  let (fraction, rest) ← fraction? (body.dropWhile isRunChar)
  let exponent ← exponent? rest
  if fraction.isEmpty && exponent.isEmpty then none
  let magnitude := whole ++ fraction ++ exponent
  match ← readLiteral? (if negative then '-' :: magnitude else magnitude) with
  | .finite x => return .finite x
  | _ => none

/-! ## Timestamps -/

/-- Two digits at the front of a text, if their number is at most `last`. -/
def pair? (last : Nat) : List Char → Option (Nat × List Char)
  | a :: b :: cs => do
    let n ← natOfDigits? [a, b]
    if n ≤ last then some (n, cs) else none
  | _ => none

/-- Drops one character from the front. -/
def drop? (c : Char) : List Char → Option (List Char)
  | d :: cs => if d == c then some cs else none
  | [] => none

/-- Reads a date, and gives it as text. -/
def date? (cs : List Char) : Option (List Char × List Char) := do
  let year ← natOfDigits? (cs.take 4)
  let (month, rest) ← pair? 12 (← drop? '-' (cs.drop 4))
  let (day, rest) ← pair? (Calendar.daysInMonth year month) (← drop? '-' rest)
  if month == 0 || day == 0 then none
  return (cs.take 10, rest)

/-- The fraction of a second as text: at most nine digits, without zeros
at the end other than the first digit. -/
def secondFraction (ds : List Char) : List Char :=
  let kept := ((ds.take 9).reverse.dropWhile (· == '0')).reverse
  '.' :: if kept.isEmpty then ['0'] else kept

/-- Reads a time of day, and gives it as text.  The seconds may be left
out, and their fraction with them. -/
def clock? (cs : List Char) : Option (List Char × List Char) := do
  let (_, rest) ← pair? 23 cs
  let (_, rest) ← pair? 59 (← drop? ':' rest)
  match rest with
  | ':' :: rest =>
    let (_, rest) ← pair? 60 rest
    match rest with
    | '.' :: rest =>
      let ds := rest.takeWhile isAsciiDigit
      if ds.isEmpty then none
      return (cs.take 8 ++ secondFraction ds, rest.dropWhile isAsciiDigit)
    | rest => return (cs.take 8, rest)
  | rest => return (cs.take 5, rest)

/-- The offset that a text is, as text; it may be absent. -/
def offset? : List Char → Option (List Char)
  | [] => some []
  | ['Z'] | ['z'] => some ['Z']
  | sign :: cs => do
    if sign != '+' && sign != '-' then none
    let (hours, rest) ← pair? 23 cs
    let (minutes, rest) ← pair? 59 (← drop? ':' rest)
    if !rest.isEmpty then none
    return (if hours == 0 && minutes == 0 then '+' else sign) :: cs

/-- The text of the timestamp that a word is. -/
def timestamp? (word : List Char) : Option (List Char) :=
  match date? word with
  | some (date, []) => some date
  | some (date, c :: rest) => do
    if c != 'T' && c != 't' && c != ' ' then none
    let (clock, rest) ← clock? rest
    return date ++ 'T' :: (clock ++ (← offset? rest))
  | none =>
    match clock? word with
    | some (clock, []) => some clock
    | _ => none

/-! ## Words -/

/-- Whether `c` may stand in a bare word. -/
def isWordChar (c : Char) : Bool :=
  'a' ≤ c && c ≤ 'z' || 'A' ≤ c && c ≤ 'Z' || isAsciiDigit c ||
    c == '_' || c == '-' || c == '+' || c == '.' || c == ':'

/-- The bare word at the front of a text and what follows.  A date takes
a time of day after one blank with it. -/
def word (cs : List Char) : List Char × List Char :=
  let first := cs.takeWhile isWordChar
  match cs.dropWhile isWordChar with
  | ' ' :: rest =>
    if (date? first).any (·.2.isEmpty) && (rest.head?.any isAsciiDigit) then
      (first ++ ' ' :: rest.takeWhile isWordChar, rest.dropWhile isWordChar)
    else (first, ' ' :: rest)
  | rest => (first, rest)

/-- The value of a bare word. -/
def ofWord? (word : List Char) : Option Setting :=
  if word == "true".toList then some (.boolean true)
  else if word == "false".toList then some (.boolean false)
  else
    (integer? word).map Setting.integer
      <|> (decimal? word).map Setting.decimal
      <|> (timestamp? word).map fun cs => Setting.text (String.ofList cs)

/-- Reads the value of the bare word at the front of a text. -/
def scalar? (cs : List Char) : Option (Setting × List Char) :=
  let (first, rest) := word cs
  (ofWord? first).map fun value => (value, rest)

end RecordSieve.Toml
