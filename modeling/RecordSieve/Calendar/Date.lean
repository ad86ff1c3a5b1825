/-
RecordSieve.Calendar.Date — days of the proleptic Gregorian calendar.

A `Date` carries the proof that it is a real day between the first of
January −262143 and the last of December 262142.  `dayNumber` counts the
days from the first of January 1970.
-/

namespace RecordSieve

namespace Calendar

/-- The first and last year that a date can have. -/
def minYear : Int := -262143
def maxYear : Int := 262142

/-- Whether a year has 366 days. -/
def isLeapYear (year : Int) : Bool := year % 4 == 0 && (year % 100 != 0 || year % 400 == 0)

/-- The number of days of a month; none for a number that is no month. -/
def daysInMonth (year : Int) : Nat → Nat
  | 1 | 3 | 5 | 7 | 8 | 10 | 12 => 31
  | 4 | 6 | 9 | 11 => 30
  | 2 => if isLeapYear year then 29 else 28
  | _ => 0

/-- The number of days between the first of January 0001 and the first
of January of a year. -/
def daysBeforeYear (year : Int) : Int :=
  let y := year - 1
  365 * y + y / 4 - y / 100 + y / 400

/-- The number of days of a year before a month. -/
def daysBeforeMonth (year : Int) : Nat → Nat
  | 0 => 0
  | month + 1 => daysBeforeMonth year month + daysInMonth year month

end Calendar

open Calendar

/-- A real day of the calendar. -/
structure Date where
  year : Int
  month : Nat
  day : Nat
  yearInRange : minYear ≤ year ∧ year ≤ maxYear
  dayInMonth : 1 ≤ day ∧ day ≤ daysInMonth year month

namespace Date

@[ext] theorem ext {a b : Date} (hy : a.year = b.year) (hm : a.month = b.month)
    (hd : a.day = b.day) : a = b := by
  cases a; cases b; simp_all

instance : DecidableEq Date := fun a b =>
  if h : a.year = b.year ∧ a.month = b.month ∧ a.day = b.day then isTrue (ext h.1 h.2.1 h.2.2)
  else isFalse fun hab => h (hab ▸ ⟨rfl, rfl, rfl⟩)

/-- The date of a year, month and day, if it is a real one. -/
def ofFields? (year : Int) (month day : Nat) : Option Date :=
  if hy : minYear ≤ year ∧ year ≤ maxYear then
    if hd : 1 ≤ day ∧ day ≤ daysInMonth year month then some ⟨year, month, day, hy, hd⟩ else none
  else none

/-- The first of January 0001. -/
def first : Date := ⟨1, 1, 1, by decide, by decide⟩

/-- The number of days from the first of January 1970. -/
def dayNumber (d : Date) : Int :=
  daysBeforeYear d.year + daysBeforeMonth d.year d.month + d.day - 1 - daysBeforeYear 1970

/-- The day of the week: 0 for Monday up to 6 for Sunday. -/
def weekday (d : Date) : Nat := ((d.dayNumber + 3) % 7).toNat

/-- The order of dates. -/
def order (a b : Date) : Ordering :=
  (compare a.year b.year).then <| (compare a.month b.month).then <| compare a.day b.day

theorem month_bounds (d : Date) : 1 ≤ d.month ∧ d.month ≤ 12 := by
  obtain ⟨y, m, n, hy, hd⟩ := d
  unfold daysInMonth at hd
  simp only
  split at hd <;> omega

theorem order_eq_eq_iff {a b : Date} : a.order b = .eq ↔ a = b := by
  simp only [order, Ordering.then_eq_eq, Std.LawfulEqOrd.compare_eq_iff_eq]
  exact ⟨fun h => ext h.1 h.2.1 h.2.2, fun h => h ▸ ⟨rfl, rfl, rfl⟩⟩

theorem ofFields?_eq_some_iff {year : Int} {month day : Nat} {d : Date} :
    ofFields? year month day = some d ↔ d.year = year ∧ d.month = month ∧ d.day = day := by
  constructor
  · intro h
    unfold ofFields? at h
    split at h
    · split at h
      · cases h; exact ⟨rfl, rfl, rfl⟩
      · simp at h
    · simp at h
  · rintro ⟨rfl, rfl, rfl⟩
    simp [ofFields?, d.yearInRange, d.dayInMonth]

end Date

end RecordSieve
