/-
RecordSieve.Proofs.Calendar.DayCount — the number of a day counts days.

`Date.dayNumber` is a formula over centuries and leap years.  What it
stands for is said here without one: `IsNext` is the step from a day to
the next, over the ends of months and years, and `DaysAfter` takes that
step a number of times.  The step adds one to the number
(`IsNext.dayNumber_eq`), every later day has a day before it
(`exists_isNext`), and two days do not share a number (`dayNumber_lt`);
so the difference of two numbers is how many days lie between
(`daysAfter_iff`), and the instant of a moment counts the seconds since
the first of January 1970 (`Moment.seconds_of_isDay`).
-/
import RecordSieve.Calendar.Moment

namespace RecordSieve

open Calendar

/-! ## Years and months in days -/

namespace Calendar

theorem daysBeforeMonth_thirteen (year : Int) :
    daysBeforeMonth year 13 = if isLeapYear year then 366 else 365 := by
  simp only [daysBeforeMonth, daysInMonth]
  split <;> rfl

/-- A year is as long as its months together. -/
theorem daysBeforeYear_succ (year : Int) :
    daysBeforeYear (year + 1) = daysBeforeYear year + daysBeforeMonth year 13 := by
  rw [daysBeforeMonth_thirteen]
  simp only [daysBeforeYear, isLeapYear, Bool.and_eq_true, Bool.or_eq_true, beq_iff_eq,
    bne_iff_ne]
  split <;> omega

theorem daysBeforeYear_mono {a b : Int} (h : a ≤ b) : daysBeforeYear a ≤ daysBeforeYear b := by
  simp only [daysBeforeYear]
  omega

theorem daysBeforeMonth_mono (year : Int) {a b : Nat} (h : a ≤ b) :
    daysBeforeMonth year a ≤ daysBeforeMonth year b := by
  induction h with
  | refl => exact Nat.le_refl _
  | step _ ih => exact Nat.le_trans ih (Nat.le_add_right _ _)

theorem daysInMonth_pos (year : Int) {month : Nat} (hfirst : 1 ≤ month) (hlast : month ≤ 12) :
    1 ≤ daysInMonth year month := by
  unfold daysInMonth
  split
  case h_12 => split <;> decide
  case h_13 => grind
  all_goals decide

end Calendar

namespace Date

/-! ## From a day to the next -/

/-- `e` is the day after `d`. -/
inductive IsNext (d e : Date) : Prop
  | sameMonth (year : e.year = d.year) (month : e.month = d.month) (day : e.day = d.day + 1)
  | newMonth (last : d.day = daysInMonth d.year d.month) (year : e.year = d.year)
      (month : e.month = d.month + 1) (day : e.day = 1)
  | newYear (lastMonth : d.month = 12) (last : d.day = 31) (year : e.year = d.year + 1)
      (month : e.month = 1) (day : e.day = 1)

/-- The day after has the next number. -/
theorem IsNext.dayNumber_eq {d e : Date} (h : d.IsNext e) : e.dayNumber = d.dayNumber + 1 := by
  cases h with
  | sameMonth year month day =>
    simp only [dayNumber, year, month, day]
    omega
  | newMonth last year month day =>
    have hmonth : daysBeforeMonth d.year (d.month + 1) =
        daysBeforeMonth d.year d.month + daysInMonth d.year d.month := rfl
    simp only [dayNumber, year, month, day, hmonth, last]
    omega
  | newYear lastMonth last year month day =>
    have hyear := daysBeforeYear_succ d.year
    have hdecember : daysBeforeMonth d.year 13 = daysBeforeMonth d.year 12 + 31 := rfl
    have hjanuary : daysBeforeMonth (d.year + 1) 1 = 0 := rfl
    simp only [dayNumber, lastMonth, last, year, month, day, hyear, hdecember, hjanuary]
    omega

/-- The days of the year up to and with a date. -/
theorem dayOfYear_bounds (d : Date) :
    1 ≤ daysBeforeMonth d.year d.month + d.day ∧
      daysBeforeMonth d.year d.month + d.day ≤ daysBeforeMonth d.year 13 := by
  obtain ⟨hfirst, hlast⟩ := d.dayInMonth
  have hmonth : d.month + 1 ≤ 13 := Nat.succ_le_succ d.month_bounds.2
  have hrest : daysBeforeMonth d.year d.month + daysInMonth d.year d.month ≤
      daysBeforeMonth d.year 13 := daysBeforeMonth_mono d.year hmonth
  omega

/-- Days are numbered in their order. -/
theorem dayNumber_lt {a b : Date} (h : a.order b = .lt) : a.dayNumber < b.dayNumber := by
  simp only [order, Ordering.then_eq_lt, Std.LawfulEqOrd.compare_eq_iff_eq,
    Int.compare_eq_lt, Nat.compare_eq_lt] at h
  have ha := a.dayOfYear_bounds
  have hb := b.dayOfYear_bounds
  rcases h with hyear | ⟨hyear, hmonth | ⟨hmonth, hday⟩⟩
  · have hstart := daysBeforeYear_mono (Int.add_one_le_iff.mpr hyear)
    rw [daysBeforeYear_succ] at hstart
    simp only [dayNumber]
    omega
  · have hstart : daysBeforeMonth a.year a.month + daysInMonth a.year a.month ≤
        daysBeforeMonth a.year b.month := daysBeforeMonth_mono a.year hmonth
    have hlast := a.dayInMonth.2
    have hfirst := b.dayInMonth.1
    simp only [dayNumber, ← hyear]
    omega
  · simp only [dayNumber, ← hyear, ← hmonth]
    omega

theorem dayNumber_inj {a b : Date} : a.dayNumber = b.dayNumber ↔ a = b := by
  constructor
  · intro h
    cases horder : a.order b with
    | eq => exact order_eq_eq_iff.mp horder
    | lt => exact absurd h (Int.ne_of_lt (dayNumber_lt horder))
    | gt =>
      have hswap : b.order a = .lt := by
        simp only [order, Ordering.then_eq_gt, Ordering.then_eq_lt,
          Std.LawfulEqOrd.compare_eq_iff_eq, Int.compare_eq_gt, Int.compare_eq_lt,
          Nat.compare_eq_gt, Nat.compare_eq_lt] at horder ⊢
        omega
      exact absurd h.symm (Int.ne_of_lt (dayNumber_lt hswap))
  · rintro rfl
    rfl

/-- A day with a day earlier than it is the next of some day. -/
theorem exists_isNext {a b : Date} (h : a.dayNumber < b.dayNumber) : ∃ c : Date, c.IsNext b := by
  obtain ⟨hfirst, hlast⟩ := b.dayInMonth
  obtain ⟨hjanuary, hdecember⟩ := b.month_bounds
  by_cases hday : b.day = 1
  · by_cases hmonth : b.month = 1
    · -- The first of January: only that of the first year has no day before it.
      have hyear : minYear ≤ b.year - 1 := by
        have hearlier : a.year < b.year := by
          refine Decidable.byContradiction fun hlate => ?_
          have hstart := daysBeforeYear_mono (Int.not_lt.mp hlate)
          have ha := a.dayOfYear_bounds
          have hzero : daysBeforeMonth b.year 1 = 0 := rfl
          simp only [dayNumber, hday, hmonth, hzero] at h
          omega
        have hmin := a.yearInRange.1
        omega
      exact ⟨⟨b.year - 1, 12, 31, ⟨hyear, by have := b.yearInRange.2; omega⟩,
          ⟨by decide, Nat.le_refl 31⟩⟩,
        .newYear rfl rfl (Int.sub_add_cancel b.year 1).symm hmonth hday⟩
    · obtain ⟨month, hsucc⟩ : ∃ month, b.month = month + 1 := ⟨b.month - 1, by omega⟩
      have hpos : 1 ≤ daysInMonth b.year month := daysInMonth_pos b.year (by omega) (by omega)
      exact ⟨⟨b.year, month, daysInMonth b.year month, b.yearInRange, ⟨hpos, Nat.le_refl _⟩⟩,
        .newMonth rfl rfl hsucc hday⟩
  · exact ⟨⟨b.year, b.month, b.day - 1, b.yearInRange, by omega⟩,
      .sameMonth rfl rfl (by dsimp only; omega)⟩

/-! ## Counting days -/

/-- Going on from `a` day by day, the day after `n` days. -/
inductive DaysAfter (a : Date) : Nat → Date → Prop
  | zero : DaysAfter a 0 a
  | succ {n : Nat} {b c : Date} (days : DaysAfter a n b) (next : b.IsNext c) :
      DaysAfter a (n + 1) c

theorem daysAfter_iff {a b : Date} {n : Nat} :
    a.DaysAfter n b ↔ b.dayNumber = a.dayNumber + n := by
  constructor
  · intro h
    induction h with
    | zero => exact (Int.add_zero _).symm
    | succ _ next ih =>
      rw [next.dayNumber_eq, ih]
      omega
  · intro h
    induction n generalizing b with
    | zero =>
      have hab : a = b := dayNumber_inj.mp (by omega)
      exact hab ▸ .zero
    | succ n ih =>
      obtain ⟨c, hc⟩ := exists_isNext (a := a) (b := b) (by omega)
      have hnumber := hc.dayNumber_eq
      exact .succ (ih (by omega)) hc

/-- The first of January 1970. -/
def epoch : Date := ⟨1970, 1, 1, by decide, by decide⟩

/-- `d` is `n` days after the first of January 1970, or before it if `n` is negative. -/
def IsDay (d : Date) (n : Int) : Prop :=
  if 0 ≤ n then epoch.DaysAfter n.natAbs d else d.DaysAfter n.natAbs epoch

theorem isDay_iff {d : Date} {n : Int} : d.IsDay n ↔ d.dayNumber = n := by
  have hzero : epoch.dayNumber = 0 := by decide
  rw [IsDay]
  split <;> rw [daysAfter_iff, hzero] <;> omega

end Date

/-! ## Moments -/

namespace Moment

/-- The instant of a moment in seconds: the days since 1970 and the time
of day, less the offset. -/
theorem seconds_of_isDay {m : Moment} {days : Int} (h : m.date.IsDay days) :
    m.seconds = ((days * 24 + m.time.hour) * 60 + m.time.minute) * 60 + m.time.second - m.offset := by
  rw [Date.isDay_iff] at h
  simp only [seconds, instantSeconds, secondsPerDay, ClockTime.seconds, h]
  omega

/-- A time of day of a year of four digits is a moment at every offset. -/
theorem exists_ofLocal? {d : Date} (time : ClockTime) {offset : Int}
    (hyear : 0 ≤ d.year ∧ d.year ≤ 9999) (hlow : -secondsPerDay < offset)
    (hhigh : offset < secondsPerDay) : ∃ m, ofLocal? d time offset = some m := by
  have hdays : -800000 ≤ d.dayNumber ∧ d.dayNumber ≤ 3700000 := by
    have hfirst : daysBeforeYear 0 ≤ daysBeforeYear d.year := daysBeforeYear_mono hyear.1
    have hlast : daysBeforeYear d.year ≤ daysBeforeYear 9999 := daysBeforeYear_mono hyear.2
    have hends : daysBeforeYear 0 = -366 ∧ daysBeforeYear 9999 = 3651694 ∧
        daysBeforeYear 1970 = 719162 := by decide
    have hday := d.dayOfYear_bounds
    have hlength : daysBeforeMonth d.year 13 ≤ 366 := by
      rw [daysBeforeMonth_thirteen]
      split <;> decide
    simp only [Date.dayNumber]
    omega
  have hmin : minInstant ≤ -800002 * 86400 := by decide
  have hmax : 3700002 * 86400 ≤ maxInstant := by decide
  have hrange : minInstant ≤ instantSeconds d time offset ∧
      instantSeconds d time offset ≤ maxInstant := by
    have htime := time.inRange
    simp only [instantSeconds, ClockTime.seconds, secondsPerDay] at *
    omega
  exact ⟨⟨d, time, offset, ⟨hlow, hhigh⟩, hrange⟩, ofLocal?_eq_some_iff.mpr ⟨rfl, rfl, rfl⟩⟩

end Moment

end RecordSieve
