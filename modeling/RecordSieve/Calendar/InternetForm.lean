/-
RecordSieve.Calendar.InternetForm — the date forms of Internet messages:
`2019-06-01T08:00:00Z` and `Sat, 1 Jun 2019 08:00:00 +0000 (comment)`.

The first has fixed digit counts and an offset below a day.  The second
allows blanks and comments, years of two and three digits, and zone
names; it has no day names in full.
-/
import RecordSieve.Calendar.Template

namespace RecordSieve.Calendar

open RecordSieve.Text RecordSieve.Decimal

/-! ## Timestamps -/

/-- Drops one given character. -/
def dropLiteral? (c : Char) : List Char → Option (List Char)
  | d :: cs => if c == d then some cs else none
  | [] => none

/-- The largest offset of a timestamp, in seconds: 23 hours 59 minutes. -/
def maxTimestampOffset : Int := (23 * 60 + 59) * 60

/-- The offset of a timestamp: Z, or hours and minutes with a colon. -/
def scanTimestampOffset? (cs : List Char) : Option (Int × List Char) :=
  match cs with
  | 'Z' :: rest => some (0, rest)
  | 'z' :: rest => some (0, rest)
  | cs =>
    (scanOffsetDigits? (dropLiteral? ':') true cs).filter fun (s, _) =>
      -maxTimestampOffset ≤ s && s ≤ maxTimestampOffset

/-- Drops the mark between date and time: T in either case, or one space. -/
def dropDateTimeMark? : List Char → Option (List Char)
  | c :: cs => if c == 'T' || c == 't' || c == ' ' then some cs else none
  | [] => none

/-- The moment of a text that is a timestamp. -/
def readTimestamp? (cs : List Char) : Option Moment := do
  let (year, rest) ← scanNumber? 4 4 cs
  let (month, rest) ← scanNumber? 2 2 (← dropLiteral? '-' rest)
  let (day, rest) ← scanNumber? 2 2 (← dropLiteral? '-' rest)
  let (hour, rest) ← scanNumber? 2 2 (← dropDateTimeMark? rest)
  let (minute, rest) ← scanNumber? 2 2 (← dropLiteral? ':' rest)
  let (second, rest) ← scanNumber? 2 2 (← dropLiteral? ':' rest)
  let (nanos, rest) ← scanFraction? rest
  let (offset, rest) ← scanTimestampOffset? rest
  if rest.isEmpty then
    Moment.ofLocal? (← Date.ofFields? year month day)
      (← ClockTime.ofFieldsWithLeap? hour minute second nanos) offset
  else none

/-! ## Message dates -/

/-- Drops one or more blanks. -/
def dropBlanks? (cs : List Char) : Option (List Char) :=
  match cs with
  | c :: rest => if isBlank c then some (trimLeft rest) else none
  | [] => none

/-- An optional short day of the week with its comma. -/
def scanMessageWeekday? (cs : List Char) : Option (Option Nat × List Char) :=
  match scanShortName? weekdayNames cs with
  | some (i, rest) => (dropLiteral? ',' rest).map fun rest => (some i, rest)
  | none => some (none, cs)

/-- The year of a message date: two digits are between 1950 and 2049,
three count from 1900. -/
def messageYear (digitCount year : Nat) : Nat :=
  if digitCount = 2 then if year < 50 then year + 2000 else year + 1900
  else if digitCount = 3 then year + 1900
  else year

/-- A year of at least two digits. -/
def scanMessageYear? (cs : List Char) : Option (Nat × List Char) :=
  let ds := cs.takeWhile isAsciiDigit
  if 2 ≤ ds.length then
    (natOfDigits? ds).map fun n => (messageYear ds.length n, cs.drop ds.length)
  else none

/-- The zone names that stand for an offset, with its hours. -/
def zoneHours : List (String × Int) :=
  [("gmt", 0), ("ut", 0), ("z", 0), ("edt", -4), ("est", -5), ("cdt", -5), ("cst", -6),
   ("mdt", -6), ("mst", -7), ("pdt", -7), ("pst", -8)]

/-- Whether a letter is a military zone, which says nothing about the
offset and is read as UTC. -/
def isMilitaryZone (c : Char) : Bool := c.isAlpha && c.toLower != 'j'

/-- The zone of a message date: a name, or hours and minutes. -/
def scanZone? (cs : List Char) : Option (Int × List Char) :=
  let name := cs.takeWhile Char.isAlpha
  let rest := cs.dropWhile Char.isAlpha
  if name.isEmpty then scanOffsetDigits? some false cs
  else
    match zoneHours.find? fun zone => equalIgnoringCase name zone.1.toList with
    | some (_, hours) => some (hours * 3600, rest)
    | none =>
      match name with
      | [c] => if isMilitaryZone c then some (0, rest) else none
      | _ => none

/-- Reads the inside of a comment that is `depth + 1` parentheses deep,
up to and with its closing parenthesis. -/
def commentTail? : Nat → List Char → Option (List Char)
  | _, [] => none
  | 0, ')' :: cs => some cs
  | depth + 1, ')' :: cs => commentTail? depth cs
  | depth, '(' :: cs => commentTail? (depth + 1) cs
  | depth, '\\' :: _ :: cs => commentTail? depth cs
  | depth, _ :: cs => commentTail? depth cs

/-- Drops one comment with the blanks before it. -/
def dropComment? (cs : List Char) : Option (List Char) :=
  match trimLeft cs with
  | '(' :: rest => commentTail? 0 rest
  | _ => none

/-- Drops comments for as long as there are any, at most `most`. -/
def dropComments : Nat → List Char → List Char
  | 0, cs => cs
  | most + 1, cs =>
    match dropComment? cs with
    | some rest => dropComments most rest
    | none => cs

/-- The moment of a text that is a message date. -/
def readMessageDate? (cs : List Char) : Option Moment := do
  let (weekday, rest) ← scanMessageWeekday? (trimLeft cs)
  let (day, rest) ← scanNumber? 1 2 (trimLeft rest)
  let (month, rest) ← scanShortName? monthNames (← dropBlanks? rest)
  let (year, rest) ← scanMessageYear? (← dropBlanks? rest)
  let (hour, rest) ← scanNumber? 2 2 (← dropBlanks? rest)
  let rest ← dropLiteral? ':' (trimLeft rest)
  let (minute, rest) ← scanNumber? 2 2 (trimLeft rest)
  let (second, rest) ←
    match dropLiteral? ':' (trimLeft rest) with
    | some rest => (scanNumber? 2 2 rest).map fun (n, rest) => (some n, rest)
    | none => some (none, rest)
  let (offset, rest) ← scanZone? (← dropBlanks? rest)
  if (dropComments rest.length rest).isEmpty then
    Fields.moment?
      { year := some year, month := some (month + 1), day := some day, weekday := weekday,
        hour := some hour, minute := some minute, second := second, offset := some offset }
  else none

end RecordSieve.Calendar
