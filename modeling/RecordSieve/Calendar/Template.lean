/-
RecordSieve.Calendar.Template — reading a date and time by a template.

A template is a list of items: literals, blanks, numbers, names and
offsets.  A blank in a template stands for any white space, also none; a
number may have white space before it.  A day of the week must agree
with the date.  The whole text must be used up.
-/
import RecordSieve.Calendar.Moment
import RecordSieve.Decimal.Digits
import RecordSieve.Decimal.Power
import RecordSieve.Text.Ascii
import RecordSieve.Text.Blank

namespace RecordSieve.Calendar

open RecordSieve.Text RecordSieve.Decimal

/-! ## Numbers, names and offsets at the front of a text -/

/-- The ASCII digits at the front of a text, at most `most` of them. -/
def leadingDigits (most : Nat) (cs : List Char) : List Char := (cs.take most).takeWhile isAsciiDigit

/-- A number of at least `least` and at most `most` ASCII digits. -/
def scanNumber? (least most : Nat) (cs : List Char) : Option (Nat × List Char) :=
  let ds := leadingDigits most cs
  if least ≤ ds.length then (natOfDigits? ds).map fun n => (n, cs.drop ds.length) else none

/-- A number of one or more ASCII digits. -/
def scanUnbounded? (cs : List Char) : Option (Nat × List Char) :=
  let ds := cs.takeWhile isAsciiDigit
  (natOfDigits? ds).map fun n => (n, cs.drop ds.length)

/-- A year: up to four digits, or any number of them after a sign. -/
def scanYear? : List Char → Option (Int × List Char)
  | '-' :: cs => (scanUnbounded? cs).map fun (n, rest) => (-(n : Int), rest)
  | '+' :: cs => (scanUnbounded? cs).map fun (n, rest) => ((n : Int), rest)
  | cs => (scanNumber? 1 4 cs).map fun (n, rest) => ((n : Int), rest)

/-- The nanoseconds of the digits after a decimal point; digits after the
ninth are dropped. -/
def scanNanos? (cs : List Char) : Option (Nat × List Char) :=
  let ds := leadingDigits 9 cs
  (natOfDigits? ds).map fun n =>
    (n * tenTo (9 - ds.length), (cs.drop ds.length).dropWhile isAsciiDigit)

/-- An optional point with the nanoseconds after it. -/
def scanFraction? : List Char → Option (Nat × List Char)
  | '.' :: cs => scanNanos? cs
  | cs => some (0, cs)

/-- A name is three letters that stand for it and the letters that may
follow them. -/
abbrev Name := String × String

/-- The months from January. -/
def monthNames : List Name :=
  [("jan", "uary"), ("feb", "ruary"), ("mar", "ch"), ("apr", "il"), ("may", ""), ("jun", "e"),
   ("jul", "y"), ("aug", "ust"), ("sep", "tember"), ("oct", "ober"), ("nov", "ember"),
   ("dec", "ember")]

/-- The days of the week from Monday. -/
def weekdayNames : List Name :=
  [("mon", "day"), ("tue", "sday"), ("wed", "nesday"), ("thu", "rsday"), ("fri", "day"),
   ("sat", "urday"), ("sun", "day")]

/-- The index of the name whose three letters the text starts with. -/
def scanShortName? (names : List Name) (cs : List Char) : Option (Nat × List Char) :=
  (names.findIdx? fun name => equalIgnoringCase (cs.take 3) name.1.toList).map fun i => (i, cs.drop 3)

/-- The index of the name that the text starts with, short or in full;
the longer reading is taken. -/
def scanName? (names : List Name) (cs : List Char) : Option (Nat × List Char) :=
  (scanShortName? names cs).map fun (i, rest) =>
    match names[i]?.bind fun name => dropWord? name.2.toList rest with
    | some rest => (i, rest)
    | none => (i, rest)

/-- The minus sign of typography. -/
def typographicMinus : Char := '\u2212'

/-- An offset in hours and minutes of two digits each, with what
`dropSeparator?` drops between them, in seconds east. -/
def scanOffsetDigits? (dropSeparator? : List Char → Option (List Char)) (allowTypographic : Bool) :
    List Char → Option (Int × List Char)
  | [] => none
  | sign :: cs =>
    let negative := sign == '-' || (allowTypographic && sign == typographicMinus)
    if negative || sign == '+' then do
      let (hours, rest) ← scanNumber? 2 2 cs
      let (minutes, rest) ← scanNumber? 2 2 (← dropSeparator? rest)
      if minutes < 60 then
        let s : Int := hours * 3600 + minutes * 60
        return (if negative then -s else s, rest)
      else none
    else none

/-! ## Templates -/

/-- The items of a template. -/
inductive Item where
  | literal (c : Char)
  | blank
  | year
  | month
  | day
  | hour
  | minute
  | second
  | fraction
  | monthName
  | weekdayName
  | offset
  deriving DecidableEq, Repr

/-- What the items of a template have given so far. -/
structure Fields where
  year : Option Int := none
  month : Option Nat := none
  day : Option Nat := none
  weekday : Option Nat := none
  hour : Option Nat := none
  minute : Option Nat := none
  second : Option Nat := none
  nanos : Option Nat := none
  offset : Option Int := none
  deriving DecidableEq, Repr

/-- What separates the hours and minutes of an offset in a template:
colons and white space in any number. -/
def dropOffsetSeparator? (cs : List Char) : Option (List Char) :=
  some (cs.dropWhile fun c => c == ':' || isBlank c)

/-- Reads one item from the front of a text. -/
def Item.read? (item : Item) (f : Fields) (cs : List Char) : Option (Fields × List Char) :=
  match item with
  | literal c =>
    match cs with
    | d :: rest => if c == d then some (f, rest) else none
    | [] => none
  | blank => some (f, trimLeft cs)
  | year => (scanYear? (trimLeft cs)).map fun (n, rest) => ({ f with year := some n }, rest)
  | month => (scanNumber? 1 2 (trimLeft cs)).map fun (n, rest) => ({ f with month := some n }, rest)
  | day => (scanNumber? 1 2 (trimLeft cs)).map fun (n, rest) => ({ f with day := some n }, rest)
  | hour => (scanNumber? 1 2 (trimLeft cs)).map fun (n, rest) => ({ f with hour := some n }, rest)
  | minute => (scanNumber? 1 2 (trimLeft cs)).map fun (n, rest) => ({ f with minute := some n }, rest)
  | second => (scanNumber? 1 2 (trimLeft cs)).map fun (n, rest) => ({ f with second := some n }, rest)
  | fraction => (scanFraction? cs).map fun (n, rest) => ({ f with nanos := some n }, rest)
  | monthName => (scanName? monthNames cs).map fun (i, rest) => ({ f with month := some (i + 1) }, rest)
  | weekdayName => (scanName? weekdayNames cs).map fun (i, rest) => ({ f with weekday := some i }, rest)
  | offset =>
    (scanOffsetDigits? dropOffsetSeparator? true (trimLeft cs)).map fun (s, rest) =>
      ({ f with offset := some s }, rest)

/-- Reads the items of a template one after the other, to the end of the
text. -/
def readItems? : List Item → Fields → List Char → Option Fields
  | [], f, cs => if cs.isEmpty then some f else none
  | item :: items, f, cs => (item.read? f cs).bind fun (f, rest) => readItems? items f rest

namespace Fields

/-- The date of the fields, which must agree with the day of the week. -/
def date? (f : Fields) : Option Date := do
  let date ← Date.ofFields? (← f.year) (← f.month) (← f.day)
  match f.weekday with
  | some w => if date.weekday = w then some date else none
  | none => some date

/-- The time of day of the fields; second 60 is a leap second. -/
def clockTime? (f : Fields) : Option ClockTime := do
  ClockTime.ofFieldsWithLeap? (← f.hour) (← f.minute) (f.second.getD 0) (f.nanos.getD 0)

/-- The moment of the fields; UTC if they have no offset. -/
def moment? (f : Fields) : Option Moment := do
  Moment.ofLocal? (← f.date?) (← f.clockTime?) (f.offset.getD 0)

end Fields

/-! ## The templates in use -/

/-- The forms of a date with the month's name. -/
def monthNameTemplates : List (List Item) :=
  [[.monthName, .blank, .day, .literal ',', .blank, .year],
   [.monthName, .blank, .day, .blank, .year],
   [.day, .blank, .monthName, .blank, .year],
   [.weekdayName, .literal ',', .blank, .monthName, .blank, .day, .literal ',', .blank, .year]]

/-- A date and time with the letter T between them. -/
def localTemplate : List Item :=
  [.year, .literal '-', .month, .literal '-', .day, .literal 'T', .hour, .literal ':', .minute,
   .literal ':', .second, .fraction]

/-- The same with an offset. -/
def offsetTemplate : List Item := localTemplate ++ [.offset]

/-- The start of the day, in UTC, of a text that is a date with the
month's name. -/
def readMonthName? (cs : List Char) : Option Moment :=
  (monthNameTemplates.findSome? fun items => (readItems? items {} cs).bind Fields.date?).bind
    fun date => Moment.ofLocal? date .midnight 0

/-- The moment of a text that fits a template with a time. -/
def readTemplate? (items : List Item) (cs : List Char) : Option Moment :=
  (readItems? items {} cs).bind Fields.moment?

end RecordSieve.Calendar
