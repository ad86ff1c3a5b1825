/-
RecordSieve.Calendar.NumericForm — numeric dates, whose field order
depends on the locale: `6/1/2019`, `1.6.19 8:30 PM`, `2019-06-01T08:00+02:00`.

Reading has two steps.  `NumericForm.scan?` recognises the form and cuts
out its fields; it accepts the decimal digits of every script.
`NumericForm.moment?` gives the fields their meaning; there only ASCII
digits have a value.

The time and the date are settled before the offset is looked at.  An
offset without a colon whose digits take more than two bytes is cut two
bytes before its end; when that is inside a digit the reading breaks off.
-/
import RecordSieve.Calendar.Moment
import RecordSieve.Decimal.Digits
import RecordSieve.Decimal.Power
import RecordSieve.Failure
import RecordSieve.Locale
import RecordSieve.Text.Blank
import RecordSieve.Text.DecimalDigit

namespace RecordSieve.Calendar

open RecordSieve.Text RecordSieve.Decimal

/-- The half of the day that a twelve-hour time is in. -/
inductive DayHalf where
  | am
  | pm
  deriving DecidableEq, Repr

/-- An offset as it is written. -/
inductive OffsetForm where
  /-- The letter Z. -/
  | utc
  /-- A sign and digits without a colon. -/
  | plain (negative : Bool) (digits : List Char)
  /-- A sign and digits on either side of a colon. -/
  | colon (negative : Bool) (hours minutes : List Char)
  deriving DecidableEq, Repr

/-- The time part of a numeric date. -/
structure TimeForm where
  hour : List Char
  minute : List Char
  second : Option (List Char)
  fraction : Option (List Char)
  half : Option DayHalf
  offset : Option OffsetForm
  deriving DecidableEq, Repr

/-- The three numbers of a numeric date, in the order in which they are
written, and the time that may follow. -/
structure NumericForm where
  a : List Char
  b : List Char
  c : List Char
  time : Option TimeForm
  deriving DecidableEq, Repr

/-! ## Scanning -/

/-- The decimal digits at the front of a text, at most `most` of them,
and the rest. -/
def takeDigits : Nat → List Char → List Char × List Char
  | most + 1, c :: cs =>
    if isDecimalDigit c then
      let (ds, rest) := takeDigits most cs
      (c :: ds, rest)
    else ([], c :: cs)
  | _, cs => ([], cs)

/-- A field of at least `least` and at most `most` decimal digits. -/
def digitField? (least most : Nat) (cs : List Char) : Option (List Char × List Char) :=
  let (ds, rest) := takeDigits most cs
  if least ≤ ds.length then some (ds, rest) else none

/-- Drops one character that satisfies `p`. -/
def dropChar? (p : Char → Bool) : List Char → Option (List Char)
  | [] => none
  | c :: cs => if p c then some cs else none

/-- Whether `c` separates the numbers of a date. -/
def isDateSeparator (c : Char) : Bool := c == '/' || c == '.' || c == '-'

/-- Drops what stands between date and time: the letter T, or blanks. -/
def dropTimeMark? : List Char → Option (List Char)
  | [] => none
  | c :: cs => if c == 'T' || c == 't' then some cs else if isBlank c then some (trimLeft cs) else none

/-- An optional half of the day. -/
def scanHalf (cs : List Char) : Option DayHalf × List Char :=
  match dropWord? "am".toList cs with
  | some rest => (some .am, rest)
  | none =>
    match dropWord? "pm".toList cs with
    | some rest => (some .pm, rest)
    | none => (none, cs)

/-- An optional offset, which with its blanks must be all that is left. -/
def scanOffset? (cs : List Char) : Option (Option OffsetForm) :=
  match cs with
  | [] => some none
  | c :: rest =>
    if c == 'Z' || c == 'z' then if isAllBlank rest then some (some .utc) else none
    else if c == '+' || c == '-' then
      let (ds, rest) := takeDigits 4 rest
      if ds.isEmpty then none
      else
        match rest with
        | ':' :: rest =>
          if ds.length ≤ 2 then do
            let (minutes, rest) ← digitField? 2 2 rest
            if isAllBlank rest then some (some (.colon (c == '-') ds minutes)) else none
          else none
        | rest => if isAllBlank rest then some (some (.plain (c == '-') ds)) else none
    else none

/-- The optional seconds with their optional fraction. -/
def scanSecond? : List Char → Option (Option (List Char) × Option (List Char) × List Char)
  | ':' :: cs => do
    let (second, rest) ← digitField? 2 2 cs
    match rest with
    | c :: cs =>
      if c == '.' || c == ',' then
        let (fraction, rest) ← digitField? 1 9 cs
        return (some second, some fraction, rest)
      else return (some second, none, rest)
    | [] => return (some second, none, [])
  | cs => some (none, none, cs)

/-- The time part, up to the end of the text. -/
def scanTime? (cs : List Char) : Option TimeForm := do
  let (hour, rest) ← digitField? 1 2 (← dropTimeMark? cs)
  let rest ← dropChar? (· == ':') rest
  let (minute, rest) ← digitField? 2 2 rest
  let (second, fraction, rest) ← scanSecond? rest
  let (half, rest) := scanHalf (trimLeft rest)
  let offset ← scanOffset? (trimLeft rest)
  return ⟨hour, minute, second, fraction, half, offset⟩

/-- Recognises a numeric date with its optional time. -/
def NumericForm.scan? (cs : List Char) : Option NumericForm := do
  let (a, rest) ← digitField? 1 4 (trimLeft cs)
  let rest ← dropChar? isDateSeparator rest
  let (b, rest) ← digitField? 1 2 rest
  let rest ← dropChar? isDateSeparator rest
  let (c, rest) ← digitField? 1 4 rest
  if isAllBlank rest then return ⟨a, b, c, none⟩
  else return ⟨a, b, c, some (← scanTime? rest)⟩

/-! ## Meaning -/

/-- A year of one or two digits lies between 1950 and 2049; a longer one
is taken as it is. -/
def expandYear (length year : Nat) : Int :=
  if length ≤ 2 then if year < 50 then 2000 + year else 1900 + year else year

/-- The year that a field of digits denotes. -/
def yearField? (ds : List Char) : Option Int := (natOfDigits? ds).map (expandYear ds.length)

/-- The nanoseconds of the digits after a decimal point.  At most `most`
bytes are allowed, and digits that have a value take one byte each. -/
def fractionNanos? (most : Nat) (ds : List Char) : Option Nat :=
  if byteLength ds ≤ most then (natOfDigits? ds).map (· * tenTo (9 - byteLength ds)) else none

/-- The hour of the day of an hour on a twelve-hour clock. -/
def hourOfHalf? (half : DayHalf) (hour : Nat) : Option Nat :=
  if 1 ≤ hour && hour ≤ 12 then
    match half with
    | .am => some (hour % 12)
    | .pm => some (hour % 12 + 12)
  else none

/-- The time of day that a time part denotes. -/
def TimeForm.clockTime? (t : TimeForm) : Option ClockTime := do
  let hour ← natOfDigits? t.hour
  let minute ← natOfDigits? t.minute
  let second ← t.second.elim (some 0) natOfDigits?
  let nanos ← t.fraction.elim (some 0) (fractionNanos? 9)
  let hour ← t.half.elim (some hour) (hourOfHalf? · hour)
  ClockTime.ofFields? hour minute second nanos

/-- The largest hours of a written offset. -/
def maxOffsetHours : Nat := 14

/-- The seconds east of UTC of hours and minutes, if they are in range. -/
def offsetSeconds? (negative : Bool) (hours minutes : List Char) : Option Int := do
  let h ← natOfDigits? hours
  let m ← natOfDigits? minutes
  if h ≤ maxOffsetHours && m ≤ 59 then
    let s : Int := h * 3600 + m * 60
    return if negative then -s else s
  else none

/-- The seconds east of UTC that an offset denotes.  Without a colon the
last two bytes are the minutes, if there are more than two. -/
def OffsetForm.seconds? : OffsetForm → Except Abort (Option Int)
  | utc => .ok (some 0)
  | colon negative hours minutes => .ok (offsetSeconds? negative hours minutes)
  | plain negative ds =>
    if byteLength ds ≤ 2 then .ok (offsetSeconds? negative ds ['0'])
    else
      match cutTwoBytes? ds with
      | some (hours, minutes) => .ok (offsetSeconds? negative hours minutes)
      | none => .error .offsetCut

namespace NumericForm

/-- The date that the three numbers denote: year first if the first has
four digits, and in the given order otherwise. -/
def date? (form : NumericForm) (order : DateOrder) : Option Date := do
  let b ← natOfDigits? form.b
  if form.a.length = 4 then Date.ofFields? (← natOfDigits? form.a) b (← natOfDigits? form.c)
  else
    match order with
    | .monthDayYear => Date.ofFields? (← yearField? form.c) (← natOfDigits? form.a) b
    | .dayMonthYear => Date.ofFields? (← yearField? form.c) b (← natOfDigits? form.a)
    | .yearMonthDay => Date.ofFields? (← yearField? form.a) b (← natOfDigits? form.c)

/-- The time of day of the form; midnight if it has none. -/
def clockTime? (form : NumericForm) : Option ClockTime :=
  form.time.elim (some .midnight) TimeForm.clockTime?

/-- The offset of the form; UTC if it has none. -/
def offset? (form : NumericForm) : Except Abort (Option Int) :=
  match form.time.bind TimeForm.offset with
  | some offset => offset.seconds?
  | none => .ok (some 0)

/-- The moment that the form denotes. -/
def moment? (form : NumericForm) (order : DateOrder) : Except Abort (Option Moment) :=
  match form.date? order, form.clockTime? with
  | some date, some time => do
    return (← form.offset?).bind fun offset => Moment.ofLocal? date time offset
  | _, _ => .ok none

end NumericForm

/-- The moment of a text that is a numeric date. -/
def readNumeric? (order : DateOrder) (cs : List Char) : Except Abort (Option Moment) :=
  match NumericForm.scan? cs with
  | some form => form.moment? order
  | none => .ok none

end RecordSieve.Calendar
