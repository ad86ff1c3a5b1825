/-
RecordSieve.Calendar.Writer — the text of dates and moments.

A year from 0 to 9999 has four digits; any other has a sign and at least
four.  A fraction of a second is written only if it is not zero, with 3,
6 or 9 digits.
-/
import RecordSieve.Calendar.Moment
import RecordSieve.Decimal.Digits

namespace RecordSieve

open RecordSieve.Decimal

/-- A year as it stands in a date. -/
def Calendar.yearText (year : Int) : List Char :=
  if 0 ≤ year ∧ year ≤ 9999 then padded 4 year.toNat
  else (if year < 0 then '-' else '+') :: padded 4 year.natAbs

/-- The date as year, month and day. -/
def Date.write (d : Date) : List Char :=
  Calendar.yearText d.year ++ '-' :: (padded 2 d.month ++ '-' :: padded 2 d.day)

/-- The fraction of a second, with its point. -/
def Calendar.fractionText (nanos : Nat) : List Char :=
  if nanos = 0 then []
  else if nanos % 1000000 = 0 then '.' :: padded 3 (nanos / 1000000)
  else if nanos % 1000 = 0 then '.' :: padded 6 (nanos / 1000)
  else '.' :: padded 9 nanos

/-- The time of day; a leap second is second 60. -/
def ClockTime.write (t : ClockTime) : List Char :=
  padded 2 t.hour ++ ':' :: (padded 2 t.minute ++ ':' ::
    (padded 2 (t.second + t.nanos / 1000000000) ++
      Calendar.fractionText (t.nanos % 1000000000)))

/-- An offset as sign, hours and minutes. -/
def Calendar.offsetText (offset : Int) : List Char :=
  (if offset < 0 then '-' else '+') ::
    (padded 2 (offset.natAbs / 3600) ++ ':' :: padded 2 (offset.natAbs / 60 % 60))

/-- The moment as local date and time with its offset. -/
def Moment.write (m : Moment) : List Char :=
  m.date.write ++ 'T' :: (m.time.write ++ Calendar.offsetText m.offset)

end RecordSieve
