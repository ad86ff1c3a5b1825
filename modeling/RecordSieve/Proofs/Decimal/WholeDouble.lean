/-
RecordSieve.Proofs.Decimal.WholeDouble — doubles as fractions, and those
that are whole.

The value of a double is its number of units over the units in 1
(`Binary64.value`), so its order is that of fractions, and it is whole
exactly if its units are a multiple of those in 1 (`isWhole_iff`).

Integers from 2⁶³ to 2⁶⁴ do not all have a double of their own.  Rounding
one takes a multiple of 2¹¹ that is still 2⁶³ at least
(`value_ofInt_of_large`): the two ends of the interval are doubles, and
between them doubles are 2¹¹ apart.
-/
import Mathlib.Algebra.Order.Field.Rat
import Mathlib.Data.Int.Order.Basic
import Mathlib.Tactic.NormNum
import RecordSieve.Decimal.Binary64

namespace RecordSieve.Decimal

theorem unitsPerOne_pos : 0 < unitsPerOne := twoTo_pos _

namespace Binary64

variable {x y : Binary64} {k : ℤ}

/-! ## Values -/

/-- The number that a double is. -/
def value (x : Binary64) : ℚ := x.units / unitsPerOne

theorem value_eq_iff : x.value = k ↔ x.units = k * unitsPerOne := by
  have hne : (unitsPerOne : ℚ) ≠ 0 := Nat.cast_ne_zero.mpr unitsPerOne_pos.ne'
  rw [value, div_eq_iff hne]
  exact_mod_cast Iff.rfl

/-- Doubles are in the order of their values. -/
theorem order_eq_lt_iff : x.order y = .lt ↔ x.value < y.value := by
  have hpos : (0 : ℚ) < unitsPerOne := Nat.cast_pos.mpr unitsPerOne_pos
  rw [value, value, div_lt_div_iff_of_pos_right hpos, Int.cast_lt]
  exact compare_lt_iff_lt

theorem order_ne_gt_iff : x.order y ≠ .gt ↔ x.value ≤ y.value := by
  have hpos : (0 : ℚ) < unitsPerOne := Nat.cast_pos.mpr unitsPerOne_pos
  rw [value, value, div_le_div_iff_of_pos_right hpos, Int.cast_le]
  exact compare_le_iff_le

theorem natAbs_units (x : Binary64) : x.units.natAbs = x.magnitude := by
  unfold units
  split <;> simp

/-! ## Whole numbers -/

theorem isWhole_iff : x.isWhole = true ↔ ∃ k : ℤ, x.value = k := by
  have hdvd : x.isWhole = true ↔ (unitsPerOne : ℤ) ∣ x.units := by
    rw [isWhole, beq_iff_eq, ← Nat.dvd_iff_mod_eq_zero, ← natAbs_units, Int.natCast_dvd]
  rw [hdvd]
  constructor
  · intro h
    obtain ⟨k, hk⟩ := h
    exact ⟨k, value_eq_iff.mpr (by rw [hk, Int.mul_comm])⟩
  · intro h
    obtain ⟨k, hk⟩ := h
    exact ⟨k, by rw [value_eq_iff.mp hk, Int.mul_comm]⟩

/-- A whole double is the number that is left when its fraction is dropped. -/
theorem truncate_of_value (h : x.value = k) : x.truncate = k := by
  rw [truncate, value_eq_iff.mp h]
  exact Int.mul_tdiv_cancel k (Nat.cast_ne_zero.mpr unitsPerOne_pos.ne')

/-! ## Integers that are rounded -/

theorem le_roundHalfEven (num den : Nat) : num / den ≤ roundHalfEven num den := by
  unfold roundHalfEven
  dsimp only
  repeat' split
  all_goals omega

section

variable {n : Nat} (hlow : twoTo 63 ≤ n) (hhigh : n < twoTo 64)
include hlow hhigh

/-- A number of 64 bits is rounded to a multiple of 2¹¹, whatever the
number `u` of places after the point. -/
theorem roundTo53_of_large (u : Nat) :
    roundTo53 (n * twoTo u) 1 =
      roundHalfEven (n * twoTo u) (twoTo 11 * twoTo u) * (twoTo 11 * twoTo u) := by
  have hlog : (n * twoTo u).log2 = 63 + u := by
    have hn : n ≠ 0 := (Nat.lt_of_lt_of_le (twoTo_pos 63) hlow).ne'
    refine (Nat.log2_eq_iff (Nat.mul_ne_zero hn (twoTo_pos u).ne')).mpr ⟨?_, ?_⟩
    · show twoTo (63 + u) ≤ n * twoTo u
      rw [twoTo_add]
      exact Nat.mul_le_mul_right _ hlow
    · show n * twoTo u < twoTo (63 + u + 1)
      rw [Nat.add_right_comm, twoTo_add]
      exact Nat.mul_lt_mul_of_pos_right hhigh (twoTo_pos u)
  have hplace : 63 + u - 52 = 11 + u := by omega
  unfold roundTo53
  dsimp only
  rw [Nat.div_one, hlog, hplace, twoTo_add, Nat.one_mul]

/-- What is multiplied has 53 bits, or is the first number that has more. -/
theorem roundHalfEven_bounds (u : Nat) :
    twoTo 52 ≤ roundHalfEven (n * twoTo u) (twoTo 11 * twoTo u) ∧
      roundHalfEven (n * twoTo u) (twoTo 11 * twoTo u) ≤ twoTo 53 := by
  have hquotient : n * twoTo u / (twoTo 11 * twoTo u) = n / twoTo 11 :=
    Nat.mul_div_mul_right _ _ (twoTo_pos u)
  have hge := le_roundHalfEven (n * twoTo u) (twoTo 11 * twoTo u)
  have hle := roundHalfEven_le (n * twoTo u) (twoTo 11 * twoTo u)
  rw [hquotient] at hge hle
  have hlow' : twoTo 52 ≤ n / twoTo 11 :=
    (Nat.le_div_iff_mul_le (twoTo_pos 11)).mpr (by rwa [← twoTo_add])
  have hhigh' : n / twoTo 11 < twoTo 53 :=
    (Nat.div_lt_iff_lt_mul (twoTo_pos 11)).mpr (by rwa [← twoTo_add])
  exact ⟨hlow'.trans hge, hle.trans hhigh'⟩

/-- A number of 64 bits is rounded to one of 64 bits at least, and there
is a double of that. -/
theorem exists_ofRatio_of_large (negative : Bool) :
    ∃ m, twoTo 63 ≤ m ∧ ∃ x, ofRatio negative n 1 = some x ∧ x.negative = negative ∧
      x.magnitude = m * unitsPerOne := by
  obtain ⟨hge, hle⟩ := roundHalfEven_bounds hlow hhigh unitExponent
  have hround := roundTo53_of_large hlow hhigh unitExponent
  generalize roundHalfEven (n * twoTo unitExponent) (twoTo 11 * twoTo unitExponent) = q
    at hge hle hround
  rw [← Nat.mul_assoc] at hround
  have hlowest := Nat.mul_le_mul_right (twoTo 11) hge
  have hhighest := Nat.mul_le_mul_right (twoTo 11) hle
  rw [← twoTo_add] at hlowest hhighest
  have hfinite : roundTo53 (n * unitsPerOne) 1 < overflowUnits := calc
    roundTo53 (n * unitsPerOne) 1 = q * twoTo 11 * twoTo unitExponent := hround
    _ < twoTo 1024 * twoTo unitExponent :=
      Nat.mul_lt_mul_of_pos_right (hhighest.trans_lt (twoTo_lt_twoTo (by decide))) (twoTo_pos _)
    _ = overflowUnits := by rw [overflowUnits, Nat.add_comm, twoTo_add]
  have hof : ofRatio negative n 1 =
      some ⟨negative, roundTo53 (n * unitsPerOne) 1, hfinite, roundTo53_form _ _⟩ := by
    unfold ofRatio
    dsimp only
    rw [dif_pos hfinite]
  exact ⟨q * twoTo 11, hlowest, _, hof, rfl, hround⟩

end

/-- An integer too large for 63 bits is rounded to one that is too large for them. -/
theorem value_ofInt_of_large {i : ℤ} (hlow : 2 ^ 63 ≤ i) (hhigh : i < 2 ^ 64) :
    ∃ k : ℤ, 2 ^ 63 ≤ k ∧ (ofInt i).value = k := by
  obtain ⟨n, rfl⟩ := Int.eq_ofNat_of_zero_le (a := i) (by omega)
  have hlow' : twoTo 63 ≤ n := by
    show 2 ^ 63 ≤ n
    exact_mod_cast hlow
  have hhigh' : n < twoTo 64 := by
    show n < 2 ^ 64
    exact_mod_cast hhigh
  obtain ⟨m, hm, x, hx, hneg, hmagnitude⟩ := exists_ofRatio_of_large hlow' hhigh' false
  have hof : ofInt n = x := by
    unfold ofInt
    rw [Int.natAbs_natCast, decide_eq_false (by omega), hx]
    rfl
  have hunits : x.units = (m : ℤ) * unitsPerOne := by
    unfold units
    rw [hneg, hmagnitude]
    push_cast
    rfl
  refine ⟨m, ?_, hof ▸ value_eq_iff.mpr hunits⟩
  have hm' : 2 ^ 63 ≤ m := hm
  exact_mod_cast hm'

end Binary64

end RecordSieve.Decimal
