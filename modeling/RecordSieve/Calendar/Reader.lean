/-
RecordSieve.Calendar.Reader — reading the text of a moment or a date.

The forms are tried one after the other on the trimmed text: the numeric
form in the locale's field order, dates with the month's name, and then
the forms that are the same in every locale.  The first that accepts the
text decides; a date is the local date of the moment.
-/
import RecordSieve.Calendar.InternetForm
import RecordSieve.Calendar.NumericForm

namespace RecordSieve.Calendar

open RecordSieve.Text

/-- The moment of a text in one of the forms that do not depend on the
locale and have a time. -/
def readFixed? (cs : List Char) : Option Moment :=
  (readTimestamp? cs).or <| (readTemplate? offsetTemplate cs).or <|
    (readMessageDate? cs).or (readTemplate? localTemplate cs)

/-- The moment of a text, if it has one of the forms. -/
def read? (locale : Locale) (text : String) : Except Abort (Option Moment) := do
  let cs := trim text.toList
  match ← readNumeric? locale.dateOrder cs with
  | some m => return some m
  | none => return (readMonthName? cs).or (readFixed? cs)

/-- The moment of a text. -/
def readMoment (locale : Locale) (text : String) : Attempt CoercionError Moment := do
  let m ← Attempt.ofOutcome (read? locale text)
  Attempt.ofOption (.invalid .dateTime text) m

/-- The date of a text; time and offset are dropped. -/
def readDate (locale : Locale) (text : String) : Attempt CoercionError Date := do
  let m ← Attempt.ofOutcome (read? locale text)
  Attempt.ofOption (.invalid .date text) (m.map Moment.date)

end RecordSieve.Calendar
