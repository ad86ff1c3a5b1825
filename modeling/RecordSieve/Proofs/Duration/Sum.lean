/-
RecordSieve.Proofs.Duration.Sum — adding up the components of a duration.

The components are added one after the other, and every sum on the way
has to be in range.  None of them is negative, so a sum on the way is at
most the whole: adding two amounts that are checked first is checking
their sum (`ofNanos?_add?`), and the components make a duration exactly if
their exact sum is in range (`ofComponents?_eq_some_iff`).
-/
import RecordSieve.Duration.Reader

namespace RecordSieve.Duration

/-- The nanoseconds of components. -/
def totalNanos (days hours minutes seconds nanos : Nat) : Nat :=
  (days * 86400 + hours * 3600 + minutes * 60 + seconds) * 1000000000 + nanos

theorem ofNanos?_of_le {n : Int} (h₀ : 0 ≤ n) (h : n ≤ maxNanos) :
    ∃ d, ofNanos? n = some d ∧ d.nanos = n := by
  have hrange : -maxNanos ≤ n ∧ n ≤ maxNanos := ⟨by simp only [maxNanos] at *; omega, h⟩
  exact ⟨⟨n, hrange⟩, dif_pos hrange, rfl⟩

theorem ofNanos?_of_gt {n : Int} (h : maxNanos < n) : ofNanos? n = none :=
  dif_neg fun hrange => absurd hrange.2 (Int.not_le.mpr h)

/-- Of two amounts that are not negative, each is in range if the sum is. -/
theorem ofNanos?_add? {a b : Int} (ha : 0 ≤ a) (hb : 0 ≤ b) {α : Type}
    (next : Duration → Option α) :
    ((ofNanos? a).bind fun x => (ofNanos? b).bind fun y => (x.add? y).bind next) =
      (ofNanos? (a + b)).bind next := by
  by_cases hsum : a + b ≤ maxNanos
  · obtain ⟨x, hx, hxa⟩ := ofNanos?_of_le ha (by omega)
    obtain ⟨y, hy, hyb⟩ := ofNanos?_of_le hb (by omega)
    rw [hx, hy, Option.bind_some, Option.bind_some, add?, hxa, hyb]
  · rw [ofNanos?_of_gt (Int.not_le.mp hsum), Option.bind_none]
    refine Option.bind_eq_none_iff.mpr fun x hx => Option.bind_eq_none_iff.mpr fun y hy => ?_
    rw [add?, ofNanos?_eq_some_iff.mp hx, ofNanos?_eq_some_iff.mp hy,
      ofNanos?_of_gt (Int.not_le.mp hsum), Option.bind_none]

/-- No sum on the way is refused that the whole does not refuse. -/
theorem checkedSum_eq {a b c d e : Int} (ha : 0 ≤ a) (hb : 0 ≤ b) (hc : 0 ≤ c) (hd : 0 ≤ d)
    (he : 0 ≤ e) {α : Type} (next : Duration → Option α) :
    ((ofNanos? a).bind fun t => (ofNanos? b).bind fun x => (t.add? x).bind fun t =>
      (ofNanos? c).bind fun x => (t.add? x).bind fun t =>
      (ofNanos? d).bind fun x => (t.add? x).bind fun t =>
      (ofNanos? e).bind fun x => (t.add? x).bind next) =
      (ofNanos? (a + b + c + d + e)).bind next := by
  rw [ofNanos?_add? ha hb, ofNanos?_add? (by omega) hc, ofNanos?_add? (by omega) hd,
    ofNanos?_add? (by omega) he]

theorem ofComponents?_eq_sum (negative : Bool) (days hours minutes seconds nanos : Nat) :
    ofComponents? negative days hours minutes seconds nanos =
      (ofNanos? ((days : Int) * 86400 * 1000000000 + hours * 3600 * 1000000000 +
        minutes * 60 * 1000000000 + seconds * 1 * 1000000000 + nanos)).bind fun d =>
        some (if negative then d.neg else d) := by
  have hday : 0 ≤ (days : Int) * 86400 * 1000000000 := by omega
  have hhour : 0 ≤ (hours : Int) * 3600 * 1000000000 := by omega
  have hminute : 0 ≤ (minutes : Int) * 60 * 1000000000 := by omega
  have hsecond : 0 ≤ (seconds : Int) * 1 * 1000000000 := by omega
  simp only [ofComponents?, ofUnits?, Option.bind_eq_bind, Option.pure_def]
  exact checkedSum_eq hday hhour hminute hsecond (Int.natCast_nonneg nanos) _

theorem totalNanos_cast (days hours minutes seconds nanos : Nat) :
    (days : Int) * 86400 * 1000000000 + hours * 3600 * 1000000000 + minutes * 60 * 1000000000 +
      seconds * 1 * 1000000000 + nanos = totalNanos days hours minutes seconds nanos := by
  simp only [totalNanos]
  omega

/-- The components make a duration exactly if their exact sum is in
range, and then they make that sum with its sign. -/
theorem ofComponents?_eq_some_iff {negative : Bool} {days hours minutes seconds nanos : Nat}
    {d : Duration} : ofComponents? negative days hours minutes seconds nanos = some d ↔
      (totalNanos days hours minutes seconds nanos : Int) ≤ maxNanos ∧
      d.nanos = if negative then -(totalNanos days hours minutes seconds nanos : Int)
        else totalNanos days hours minutes seconds nanos := by
  rw [ofComponents?_eq_sum, totalNanos_cast]
  generalize totalNanos days hours minutes seconds nanos = total
  constructor
  · intro h
    obtain ⟨t, ht, heq⟩ := Option.bind_eq_some_iff.mp h
    rw [← Option.some.inj heq]
    have hnanos := ofNanos?_eq_some_iff.mp ht
    refine ⟨hnanos ▸ t.inRange.2, ?_⟩
    cases negative <;> simp [neg, hnanos]
  · rintro ⟨hle, hd⟩
    obtain ⟨t, ht, hnanos⟩ := ofNanos?_of_le (Int.natCast_nonneg total) hle
    rw [ht, Option.bind_some, Option.some.injEq]
    ext
    rw [hd, ← hnanos]
    cases negative <;> rfl

/-- The case of whole seconds. -/
theorem ofComponents?_whole_eq_some_iff {negative : Bool} {days hours minutes seconds : Nat}
    {d : Duration} : ofComponents? negative days hours minutes seconds 0 = some d ↔
      (totalNanos days hours minutes seconds 0 : Int) ≤ maxNanos ∧
      d.nanos = if negative then -(totalNanos days hours minutes seconds 0 : Int)
        else totalNanos days hours minutes seconds 0 := by
  rw [← ofComponents?_eq_some_iff, Int.natCast_zero]

/-- The case of whole days. -/
theorem ofComponents?_days_eq_some_iff {negative : Bool} {days : Nat} {d : Duration} :
    ofComponents? negative days 0 0 0 0 = some d ↔
      (totalNanos days 0 0 0 0 : Int) ≤ maxNanos ∧
      d.nanos = if negative then -(totalNanos days 0 0 0 0 : Int) else totalNanos days 0 0 0 0 := by
  rw [← ofComponents?_eq_some_iff, Int.natCast_zero]

/-- Of components whose sum is in range each has 63 bits. -/
theorem components_le {days hours minutes seconds nanos : Nat}
    (h : (totalNanos days hours minutes seconds nanos : Int) ≤ maxNanos) :
    days ≤ 9223372036854775807 ∧ hours ≤ 9223372036854775807 ∧ minutes ≤ 9223372036854775807 ∧
      seconds ≤ 9223372036854775807 := by
  have hle : totalNanos days hours minutes seconds nanos ≤ 9223372036854775807 * 1000000 :=
    Int.ofNat_le.mp h
  simp only [totalNanos] at hle
  omega

theorem natCast_le_maxNanos_iff {n : Nat} :
    (n : Int) ≤ maxNanos ↔ n ≤ 9223372036854775807 * 1000000 := by
  rw [show maxNanos = ((9223372036854775807 * 1000000 : Nat) : Int) by decide]
  exact Int.ofNat_le

@[simp] theorem nanos_neg (d : Duration) : d.neg.nanos = -d.nanos := rfl

theorem neg_neg (d : Duration) : d.neg.neg = d := ext (Int.neg_neg d.nanos)

end RecordSieve.Duration
