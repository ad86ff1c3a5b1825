/-
RecordSieve.Duration.Basic — signed amounts of time, to the nanosecond.

A duration is at most 2⁶³ − 1 milliseconds either way; `ofNanos?` is the
only way to make one from a number, so no amount outside that range
exists.
-/
import RecordSieve.Decimal.Digits

namespace RecordSieve

/-- The largest duration, in nanoseconds. -/
def Duration.maxNanos : Int := 9223372036854775807 * 1000000

/-- A signed amount of time. -/
structure Duration where
  nanos : Int
  inRange : -Duration.maxNanos ≤ nanos ∧ nanos ≤ Duration.maxNanos

namespace Duration

@[ext] theorem ext {a b : Duration} (h : a.nanos = b.nanos) : a = b := by
  cases a; cases b; simp_all

instance : DecidableEq Duration := fun a b =>
  if h : a.nanos = b.nanos then isTrue (ext h) else isFalse fun hab => h (hab ▸ rfl)

/-- No time. -/
def zero : Duration := ⟨0, by decide⟩

/-- The duration of a number of nanoseconds, if it is in range. -/
def ofNanos? (nanos : Int) : Option Duration :=
  if h : -maxNanos ≤ nanos ∧ nanos ≤ maxNanos then some ⟨nanos, h⟩ else none

/-- The order of durations. -/
def order (a b : Duration) : Ordering := compare a.nanos b.nanos

/-- The opposite amount of time. -/
def neg (d : Duration) : Duration :=
  ⟨-d.nanos, by have := d.inRange; simp only [maxNanos] at *; omega⟩

/-- An amount of a unit of so many seconds, if it is in range. -/
def ofUnits? (seconds count : Int) : Option Duration := ofNanos? (count * seconds * 1000000000)

/-- The sum of two amounts of time, if it is in range. -/
def add? (a b : Duration) : Option Duration := ofNanos? (a.nanos + b.nanos)

/-- The digits of a fraction of a second, without trailing zeros. -/
def fractionDigits (nanos : Nat) : List Char :=
  ((Decimal.padded 9 nanos).reverse.dropWhile (· == '0')).reverse

/-- The duration as a number of seconds: `PT90S`, `-PT0.5S`, and `P0D`
for no time. -/
def write (d : Duration) : List Char :=
  let n := d.nanos.natAbs
  if n = 0 then ['P', '0', 'D']
  else
    let fraction := if n % 1000000000 = 0 then [] else '.' :: fractionDigits (n % 1000000000)
    let body := 'P' :: 'T' :: (Decimal.digits (n / 1000000000) ++ fraction ++ ['S'])
    if d.nanos < 0 then '-' :: body else body

theorem ofNanos?_eq_some_iff {nanos : Int} {d : Duration} :
    ofNanos? nanos = some d ↔ d.nanos = nanos := by
  constructor
  · intro h
    unfold ofNanos? at h
    split at h
    · cases h; rfl
    · cases h
  · rintro rfl
    simp [ofNanos?, d.inRange]

theorem order_eq_eq_iff {a b : Duration} : a.order b = .eq ↔ a = b := by
  simp only [order, Std.LawfulEqOrd.compare_eq_iff_eq]
  exact ⟨ext, fun h => h ▸ rfl⟩

end Duration

end RecordSieve
