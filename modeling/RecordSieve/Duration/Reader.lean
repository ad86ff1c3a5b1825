/-
RecordSieve.Duration.Reader — reading the text of a duration.

A text that starts with P is in the designator form, `P1DT2H3M4S`, which
has days, hours, minutes and whole seconds only.  Any other text is a
number of days, `-3`, or a time that has passed, `-1.02:03:04.5`.
-/
import RecordSieve.Calendar.NumericForm
import RecordSieve.Duration.Basic

namespace RecordSieve.Duration

open RecordSieve.Text RecordSieve.Decimal

/-- The value of a field of digits, if it has at most 63 bits. -/
def fieldValue? (ds : List Char) : Option Int :=
  ((natOfDigits? ds).map Int.ofNat).filter fitsInt64

/-- The duration of its components, which are added up one after the
other; each of them and each sum has to be in range. -/
def ofComponents? (negative : Bool) (days hours minutes seconds nanos : Int) : Option Duration := do
  let total ← ofUnits? 86400 days
  let total ← total.add? (← ofUnits? 3600 hours)
  let total ← total.add? (← ofUnits? 60 minutes)
  let total ← total.add? (← ofUnits? 1 seconds)
  let total ← total.add? (← ofNanos? nanos)
  return if negative then total.neg else total

/-! ## The designator form -/

/-- The components of the designator form; those that are not written
are absent. -/
structure DesignatorForm where
  days : Option (List Char)
  hours : Option (List Char)
  minutes : Option (List Char)
  seconds : Option (List Char)
  deriving DecidableEq, Repr

/-- Whether `c` is the designator of years or months, in either case. -/
def isYearOrMonth (c : Char) : Bool := c == 'Y' || c == 'y' || c == 'M' || c == 'm'

/-- Whether `c` introduces the time components. -/
def isTimeMark (c : Char) : Bool := c == 'T' || c == 't'

/-- Whether `c` is the designator of seconds: the letter S in either
case, and the long s. -/
def isSecondMark (c : Char) : Bool := c == 'S' || c == 's' || c == '\u017F'

/-- Whether a digit is followed by the designator of years or months. -/
def hasYearOrMonth : List Char → Bool
  | c :: d :: cs => (isDecimalDigit c && isYearOrMonth d) || hasYearOrMonth (d :: cs)
  | _ => false

/-- An optional component: digits and their designator. -/
def scanComponent (mark : Char → Bool) (cs : List Char) : Option (List Char) × List Char :=
  let ds := cs.takeWhile isDecimalDigit
  match cs.dropWhile isDecimalDigit with
  | c :: rest => if !ds.isEmpty && mark c then (some ds, rest) else (none, cs)
  | [] => (none, cs)

/-- Recognises what follows the P of the designator form: at least one
component, and at least one after a T. -/
def DesignatorForm.scan? (cs : List Char) : Option DesignatorForm :=
  let (days, rest) := scanComponent (fun c => c == 'D' || c == 'd') cs
  match rest with
  | [] => if days.isSome then some ⟨days, none, none, none⟩ else none
  | c :: rest =>
    if isTimeMark c then
      let (hours, rest) := scanComponent (fun c => c == 'H' || c == 'h') rest
      let (minutes, rest) := scanComponent (fun c => c == 'M' || c == 'm') rest
      let (seconds, rest) := scanComponent isSecondMark rest
      if rest.isEmpty && (hours.isSome || minutes.isSome || seconds.isSome) then
        some ⟨days, hours, minutes, seconds⟩
      else none
    else none

/-- The value of an optional component. -/
def componentValue (ds : Option (List Char)) : Except CoercionError Int :=
  match ds with
  | none => .ok 0
  | some ds =>
    match fieldValue? ds with
    | some n => .ok n
    | none => .error (.outOfRange (String.ofList ds))

/-- The duration of a trimmed text that starts with P. -/
def readDesignators (cs : List Char) : Except CoercionError Duration :=
  let text := String.ofList cs
  let body := cs.tail
  if hasYearOrMonth (body.takeWhile fun c => !isTimeMark c) then .error (.unsupportedDesignator text)
  else
    match DesignatorForm.scan? body with
    | none => .error (.invalid .duration text)
    | some form => do
      let days ← componentValue form.days
      let hours ← componentValue form.hours
      let minutes ← componentValue form.minutes
      let seconds ← componentValue form.seconds
      match ofComponents? false days hours minutes seconds 0 with
      | some d => return d
      | none => throw (.outOfRange text)

/-! ## The elapsed form -/

/-- An optional minus sign: whether it is there, and what follows. -/
def dropMinus : List Char → Bool × List Char
  | '-' :: cs => (true, cs)
  | cs => (false, cs)

/-- The fields of the elapsed form. -/
structure ElapsedForm where
  negative : Bool
  days : Option (List Char)
  hours : List Char
  minutes : List Char
  seconds : Option (List Char)
  fraction : Option (List Char)
  deriving DecidableEq, Repr

/-- The optional days with their point, and what follows. -/
def scanDays (cs : List Char) : Option (List Char) × List Char :=
  match cs.dropWhile isDecimalDigit with
  | '.' :: rest =>
    let ds := cs.takeWhile isDecimalDigit
    if ds.isEmpty then (none, cs) else (some ds, rest)
  | _ => (none, cs)

/-- The optional seconds with their optional fraction, to the end of the
text.  A comma separates the fraction only where `comma` allows it. -/
def scanSeconds? (comma : Bool) : List Char → Option (Option (List Char) × Option (List Char))
  | [] => some (none, none)
  | ':' :: cs => do
    let (seconds, rest) ← Calendar.digitField? 1 2 cs
    match rest with
    | [] => return (some seconds, none)
    | c :: rest =>
      if c == '.' || (comma && c == ',') then
        let (fraction, rest) ← Calendar.digitField? 1 7 rest
        if rest.isEmpty then return (some seconds, some fraction) else none
      else none
  | _ => none

/-- Recognises the elapsed form. -/
def ElapsedForm.scan? (comma : Bool) (cs : List Char) : Option ElapsedForm := do
  let (negative, rest) := dropMinus cs
  let (days, rest) := scanDays rest
  let (hours, rest) ← Calendar.digitField? 1 2 rest
  let rest ← Calendar.dropChar? (· == ':') rest
  let (minutes, rest) ← Calendar.digitField? 1 2 rest
  let (seconds, fraction) ← scanSeconds? comma rest
  return ⟨negative, days, hours, minutes, seconds, fraction⟩

/-- The components that the fields denote, if hours, minutes and seconds
are those of a clock. -/
def ElapsedForm.components? (form : ElapsedForm) : Option (Int × Int × Int × Int × Int) := do
  let days ← form.days.elim (some 0) fieldValue?
  let hours ← fieldValue? form.hours
  let minutes ← fieldValue? form.minutes
  let seconds ← form.seconds.elim (some 0) fieldValue?
  if hours ≤ 23 && minutes ≤ 59 && seconds ≤ 59 then
    let nanos ← form.fraction.elim (some 0) (Calendar.fractionNanos? 7)
    return (days, hours, minutes, seconds, nanos)
  else none

/-- The digits of a text that is a number of days, with its sign. -/
def scanDayCount? (cs : List Char) : Option (Bool × List Char) :=
  let (negative, ds) := dropMinus cs
  if !ds.isEmpty && ds.all isDecimalDigit then some (negative, ds) else none

/-- The duration of a trimmed text that does not start with P. -/
def readElapsed (comma : Bool) (cs : List Char) : Except CoercionError Duration :=
  let text := String.ofList cs
  match scanDayCount? cs with
  | some (negative, ds) =>
    match (fieldValue? ds).bind fun days => ofComponents? negative days 0 0 0 0 with
    | some d => .ok d
    | none => .error (.outOfRange text)
  | none =>
    match ElapsedForm.scan? comma cs with
    | none => .error (.invalid .duration text)
    | some form =>
      match form.components? with
      | none => .error (.invalid .duration text)
      | some (days, hours, minutes, seconds, nanos) =>
        match ofComponents? form.negative days hours minutes seconds nanos with
        | some d => .ok d
        | none => .error (.outOfRange text)

/-- The duration of a text. -/
def read (locale : Locale) (text : String) : Except CoercionError Duration :=
  let cs := trim text.toList
  match cs with
  | c :: _ =>
    if c == 'P' || c == 'p' then readDesignators cs else readElapsed locale.decimalComma cs
  | [] => readElapsed locale.decimalComma cs

end RecordSieve.Duration
