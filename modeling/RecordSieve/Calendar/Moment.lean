/-
RecordSieve.Calendar.Moment — a time of day, and a moment: a date and
time of day with an offset from UTC.

Moments are compared by their instant, which is the local time less the
offset, in whole seconds and then nanoseconds.  A leap second is the
second before it with 10⁹ or more nanoseconds, so it comes after that
second and before the next.
-/
import RecordSieve.Calendar.Date

namespace RecordSieve

/-- A time of day. -/
structure ClockTime where
  hour : Nat
  minute : Nat
  second : Nat
  nanos : Nat
  inRange : hour < 24 ∧ minute < 60 ∧ second < 60 ∧ nanos < 2000000000

namespace ClockTime

@[ext] theorem ext {a b : ClockTime} (hh : a.hour = b.hour) (hm : a.minute = b.minute)
    (hs : a.second = b.second) (hn : a.nanos = b.nanos) : a = b := by
  cases a; cases b; simp_all

/-- The start of the day. -/
def midnight : ClockTime := ⟨0, 0, 0, 0, by decide⟩

/-- The time of day of its fields, if they are in range; the nanoseconds
do not reach a whole second. -/
def ofFields? (hour minute second nanos : Nat) : Option ClockTime :=
  if h : hour < 24 ∧ minute < 60 ∧ second < 60 ∧ nanos < 1000000000 then
    some ⟨hour, minute, second, nanos, by omega⟩
  else none

/-- The time of day of its fields, where second 60 is a leap second. -/
def ofFieldsWithLeap? (hour minute second nanos : Nat) : Option ClockTime :=
  if second = 60 then
    if h : hour < 24 ∧ minute < 60 ∧ nanos < 1000000000 then
      some ⟨hour, minute, 59, 1000000000 + nanos, by omega⟩
    else none
  else ofFields? hour minute second nanos

/-- The number of whole seconds since midnight. -/
def seconds (t : ClockTime) : Nat := t.hour * 3600 + t.minute * 60 + t.second

end ClockTime

namespace Calendar

/-- The number of seconds in a day. -/
def secondsPerDay : Int := 86400

/-- The seconds from 1970 of a local date and time at an offset. -/
def instantSeconds (date : Date) (time : ClockTime) (offset : Int) : Int :=
  date.dayNumber * secondsPerDay + time.seconds - offset

/-- The first second of the first date, in UTC, and the last one of the last. -/
def minInstant : Int := daysBeforeYear minYear * secondsPerDay - daysBeforeYear 1970 * secondsPerDay
def maxInstant : Int :=
  (daysBeforeYear (maxYear + 1) - daysBeforeYear 1970) * secondsPerDay - 1

end Calendar

open Calendar

/-- A date and time of day with an offset from UTC, in seconds east. -/
structure Moment where
  date : Date
  time : ClockTime
  offset : Int
  offsetInRange : -secondsPerDay < offset ∧ offset < secondsPerDay
  instantInRange : minInstant ≤ instantSeconds date time offset ∧
    instantSeconds date time offset ≤ maxInstant

namespace Moment

@[ext] theorem ext {a b : Moment} (hd : a.date = b.date) (ht : a.time = b.time)
    (ho : a.offset = b.offset) : a = b := by
  cases a; cases b; simp_all

/-- The moment of a local date and time at an offset, if its instant can
be represented. -/
def ofLocal? (date : Date) (time : ClockTime) (offset : Int) : Option Moment :=
  if ho : -secondsPerDay < offset ∧ offset < secondsPerDay then
    if hi : minInstant ≤ instantSeconds date time offset ∧
        instantSeconds date time offset ≤ maxInstant then
      some ⟨date, time, offset, ho, hi⟩
    else none
  else none

/-- The start of the first of January 0001 in UTC. -/
def first : Moment := ⟨.first, .midnight, 0, by decide, by decide⟩

/-- The seconds from 1970 of the moment's instant. -/
def seconds (m : Moment) : Int := instantSeconds m.date m.time m.offset

/-- The nanoseconds of the moment's instant; 10⁹ or more in a leap second. -/
def nanos (m : Moment) : Nat := m.time.nanos

/-- The order of the moments' instants. -/
def order (a b : Moment) : Ordering := (compare a.seconds b.seconds).then (compare a.nanos b.nanos)

/-- Whether two moments are the same instant. -/
def sameInstant (a b : Moment) : Bool := a.seconds == b.seconds && a.nanos == b.nanos

theorem order_eq_eq_iff {a b : Moment} : a.order b = .eq ↔ a.sameInstant b = true := by
  simp [order, sameInstant, Ordering.then_eq_eq]

theorem ofLocal?_eq_some_iff {date : Date} {time : ClockTime} {offset : Int} {m : Moment} :
    ofLocal? date time offset = some m ↔ m.date = date ∧ m.time = time ∧ m.offset = offset := by
  constructor
  · intro h
    unfold ofLocal? at h
    split at h
    · split at h
      · cases h; exact ⟨rfl, rfl, rfl⟩
      · simp at h
    · simp at h
  · rintro ⟨rfl, rfl, rfl⟩
    simp [ofLocal?, m.offsetInRange, m.instantInRange]

end Moment

end RecordSieve
