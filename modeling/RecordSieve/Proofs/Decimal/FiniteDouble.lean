/-
RecordSieve.Proofs.Decimal.FiniteDouble — what is too large for a double.

All doubles are finite: they lie between the two powers of two that are
too large (`Binary64.abs_value_lt`).  Rounding an integer to 53 bits
makes it at most twice as large, and the integers of JSON numbers are far
from the limit, so each of them has a double (`Binary64.exists_ofInt`).
-/
import Mathlib.Algebra.Order.Field.Basic
import Mathlib.Data.Rat.Cast.Order
import RecordSieve.Json.Basic
import RecordSieve.Proofs.Decimal.WholeDouble

namespace RecordSieve.Decimal

/-- Rounding to 53 bits at most doubles a number, or makes one of none. -/
theorem roundTo53_le (num den : Nat) : roundTo53 num den ≤ 2 * (num / den) + 1 := by
  unfold roundTo53
  dsimp only
  generalize hplace : (num / den).log2 - 52 = s
  have hround : roundHalfEven num (den * twoTo s) ≤ num / den / twoTo s + 1 := by
    rw [Nat.div_div_eq_div_mul]
    exact roundHalfEven_le num (den * twoTo s)
  have hpower : twoTo s ≤ num / den + 1 := by
    by_cases hzero : num / den = 0
    · rw [hzero, Nat.log2_zero] at hplace
      rw [← hplace]
      exact Nat.le_add_left _ _
    · calc twoTo s ≤ twoTo (num / den).log2 := twoTo_le_twoTo (by omega)
        _ ≤ num / den := Nat.log2_self_le hzero
        _ ≤ num / den + 1 := Nat.le_succ _
  calc roundHalfEven num (den * twoTo s) * twoTo s
      ≤ (num / den / twoTo s + 1) * twoTo s := Nat.mul_le_mul_right _ hround
    _ = num / den / twoTo s * twoTo s + twoTo s := Nat.succ_mul _ _
    _ ≤ num / den + (num / den + 1) := Nat.add_le_add (Nat.div_mul_le_self _ _) hpower
    _ = 2 * (num / den) + 1 := by omega

theorem cast_twoTo (n : Nat) : ((twoTo n : ℕ) : ℚ) = 2 ^ n := by
  rw [twoTo, Nat.pow_eq, Nat.cast_pow, Nat.cast_ofNat]

theorem overflowUnits_eq : overflowUnits = twoTo 1024 * unitsPerOne := by
  rw [overflowUnits, Nat.add_comm, twoTo_add, unitsPerOne]

namespace Binary64

/-- The integers of JSON numbers have doubles. -/
theorem exists_ofInt {i : ℤ} (h : JsonInteger i) :
    ∃ x, ofRatio (i < 0) i.natAbs 1 = some x ∧ ofInt i = x := by
  have hsize : i.natAbs ≤ twoTo 64 := by
    unfold JsonInteger at h
    show i.natAbs ≤ 2 ^ 64
    omega
  have hunits : i.natAbs * unitsPerOne ≤ twoTo 64 * unitsPerOne := Nat.mul_le_mul_right _ hsize
  have hpos : 0 < twoTo 64 * unitsPerOne := Nat.mul_pos (twoTo_pos 64) unitsPerOne_pos
  have hfinite : roundTo53 (i.natAbs * unitsPerOne) 1 < overflowUnits := calc
    roundTo53 (i.natAbs * unitsPerOne) 1
      ≤ 2 * (i.natAbs * unitsPerOne / 1) + 1 := roundTo53_le _ _
    _ < 4 * (twoTo 64 * unitsPerOne) := by rw [Nat.div_one]; omega
    _ ≤ twoTo 1024 * unitsPerOne := by
      rw [← Nat.mul_assoc]
      exact Nat.mul_le_mul_right _ (twoTo_le_twoTo (a := 66) (by decide))
    _ = overflowUnits := overflowUnits_eq.symm
  have hof : ofRatio (i < 0) i.natAbs 1 =
      some ⟨i < 0, roundTo53 (i.natAbs * unitsPerOne) 1, hfinite, roundTo53_form _ _⟩ := by
    unfold ofRatio
    dsimp only
    rw [dif_pos hfinite]
  exact ⟨_, hof, by rw [ofInt, hof]; rfl⟩

/-- A double lies between the two powers that are too large. -/
theorem abs_value_lt (x : Binary64) : |x.value| < 2 ^ 1024 := by
  have hpos : (0 : ℚ) < unitsPerOne := Nat.cast_pos.mpr unitsPerOne_pos
  have hlt : x.magnitude < twoTo 1024 * unitsPerOne := overflowUnits_eq ▸ x.representable.1
  have habs : |(x.units : ℚ)| = x.magnitude := by
    rw [← natAbs_units, ← Int.cast_abs, Int.abs_eq_natAbs, Int.cast_natCast]
  rw [value, abs_div, habs, abs_of_pos hpos, div_lt_iff₀ hpos, ← cast_twoTo]
  exact_mod_cast hlt

end Binary64

end RecordSieve.Decimal
