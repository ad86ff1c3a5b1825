/-
RecordSieve.Decimal.Binary64 — finite double-precision numbers, held
exactly.

A finite double is a whole number of units of 2⁻¹⁰⁷⁴ that has at most 53
significant bits, together with a sign (zero has both signs).  Order and
equality are those of the units, so they are integer facts; every
operation that can round goes through `ofRatio`, which rounds an exact
quotient once, to nearest and ties to even.
-/
import RecordSieve.Decimal.Power

namespace RecordSieve.Decimal

/-- The smallest positive double is two to minus this. -/
def unitExponent : Nat := 1074

/-- The number of a double's smallest units in 1. -/
def unitsPerOne : Nat := twoTo unitExponent

/-- The least magnitude, in units, that is too large for a double: 2¹⁰²⁴. -/
def overflowUnits : Nat := twoTo (unitExponent + 1024)

/-- Magnitudes, in units of 2⁻¹⁰⁷⁴, that a finite double can have. -/
def Representable (units : Nat) : Prop :=
  units < overflowUnits ∧ ∃ m s : Nat, m < twoTo 53 ∧ units = m * twoTo s

theorem representable_twoTo {s : Nat} (h : s < unitExponent + 1024) : Representable (twoTo s) :=
  ⟨twoTo_lt_twoTo h, 1, s, by decide, (Nat.one_mul _).symm⟩

/-- A finite double-precision number. -/
structure Binary64 where
  negative : Bool
  /-- The absolute value in units of 2⁻¹⁰⁷⁴. -/
  magnitude : Nat
  representable : Representable magnitude

/-- The quotient rounded to the nearest whole number, ties to even. -/
def roundHalfEven (num den : Nat) : Nat :=
  let q := num / den
  let twice := 2 * (num % den)
  if twice < den then q
  else if den < twice then q + 1
  else if q % 2 = 0 then q else q + 1

/-- The quotient rounded to a whole number of 53 significant bits. -/
def roundTo53 (num den : Nat) : Nat :=
  let s := (num / den).log2 - 52
  roundHalfEven num (den * twoTo s) * twoTo s

theorem roundHalfEven_le (num den : Nat) : roundHalfEven num den ≤ num / den + 1 := by
  simp only [roundHalfEven]
  repeat' split
  all_goals omega

/-- Rounding at a place where the quotient has at most 53 digits in base
two gives at most that many, up to a carry into the next place. -/
theorem roundTo53_form (num den : Nat) :
    ∃ m s : Nat, m < twoTo 53 ∧ roundTo53 num den = m * twoTo s := by
  simp only [roundTo53]
  generalize hs : (num / den).log2 - 52 = s
  have hq : num / (den * twoTo s) < twoTo 53 := by
    rw [← Nat.div_div_eq_div_mul]
    apply Nat.div_lt_of_lt_mul
    rw [← twoTo_add]
    exact Nat.lt_of_lt_of_le (lt_twoTo_log2_succ _) (twoTo_le_twoTo (by omega))
  have hm := roundHalfEven_le num (den * twoTo s)
  generalize roundHalfEven num (den * twoTo s) = m at hm
  by_cases hlt : m < twoTo 53
  · exact ⟨m, s, hlt, rfl⟩
  · have carry : m = twoTo 52 * 2 := by
      have : twoTo 53 = twoTo 52 * 2 := twoTo_succ 52
      omega
    refine ⟨twoTo 52, s + 1, by decide, ?_⟩
    rw [carry, twoTo_succ s, Nat.mul_assoc, Nat.mul_comm 2]

namespace Binary64

/-- The double nearest to `num / den`, with the given sign; none if it
would be infinite.  The denominator must not be zero. -/
def ofRatio (negative : Bool) (num den : Nat) : Option Binary64 :=
  let units := roundTo53 (num * unitsPerOne) den
  if h : units < overflowUnits then some ⟨negative, units, h, roundTo53_form _ _⟩ else none

/-- Zero with a sign. -/
def signedZero (negative : Bool) : Binary64 :=
  ⟨negative, 0, by decide +kernel, 0, 0, by decide, by decide⟩

/-- Positive zero. -/
def zero : Binary64 := signedZero false

/-- One. -/
def one : Binary64 :=
  ⟨false, unitsPerOne, representable_twoTo (by decide)⟩

/-- The signed value in units of 2⁻¹⁰⁷⁴. -/
def units (x : Binary64) : Int := if x.negative then -x.magnitude else x.magnitude

/-- Whether the number is zero, of either sign. -/
def isZero (x : Binary64) : Bool := x.magnitude == 0

/-- The order of the numbers; the two zeros are equal. -/
def order (x y : Binary64) : Ordering := compare x.units y.units

/-- Numeric equality; the two zeros are equal. -/
def equal (x y : Binary64) : Bool := x.units == y.units

/-- Whether the number has no fraction. -/
def isWhole (x : Binary64) : Bool := x.magnitude % unitsPerOne == 0

/-- The number without its fraction. -/
def truncate (x : Binary64) : Int := x.units.tdiv unitsPerOne

/-- The double nearest to a whole number of at most 64 bits; numbers of
any size are accepted, and one beyond the finite range gives zero. -/
def ofInt (i : Int) : Binary64 := (ofRatio (i < 0) i.natAbs 1).getD zero

/-- The product rounded to a double; none if it is infinite. -/
def mul? (x y : Binary64) : Option Binary64 :=
  ofRatio (x.negative != y.negative) (x.magnitude * y.magnitude) (unitsPerOne * unitsPerOne)

/-- The quotient rounded to a double; none if it is infinite or the
divisor is zero. -/
def div? (x y : Binary64) : Option Binary64 :=
  if y.isZero then none else ofRatio (x.negative != y.negative) x.magnitude y.magnitude

theorem equal_eq_true_iff {x y : Binary64} : x.equal y = true ↔ x.units = y.units := by
  simp [equal]

theorem order_eq_eq_iff {x y : Binary64} : x.order y = .eq ↔ x.units = y.units := by
  simp [order]

end Binary64

end RecordSieve.Decimal
