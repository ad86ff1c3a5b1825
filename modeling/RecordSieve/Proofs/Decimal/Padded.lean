/-
RecordSieve.Proofs.Decimal.Padded — numbers with leading zeros.

A number below `tenTo width` is written with exactly `width` digits, and
leading zeros do not change the value that is read back.
-/
import RecordSieve.Decimal.Digits
import RecordSieve.Decimal.Power

namespace RecordSieve.Decimal

theorem length_digits_le {width n : Nat} (hpos : 0 < width) (h : n < tenTo width) :
    (digits n).length ≤ width := by
  induction width generalizing n with
  | zero => cases hpos
  | succ width ih =>
    rw [digits]
    split
    · simp
    · next hten =>
      rw [tenTo_succ] at h
      have hfront : n / 10 < tenTo width := by omega
      -- A number of two digits or more has a width of two or more.
      have hwidth : 0 < width := by
        rcases Nat.eq_zero_or_pos width with rfl | hwidth
        · have hone : n < 10 := h
          omega
        · exact hwidth
      have := ih hwidth hfront
      simp only [List.length_append, List.length_singleton]
      omega

theorem length_padded {width n : Nat} (hpos : 0 < width) (h : n < tenTo width) :
    (padded width n).length = width := by
  have := length_digits_le hpos h
  simp only [padded, List.length_append, List.length_replicate]
  omega

theorem padded_ne_nil (width n : Nat) : padded width n ≠ [] := by
  simp [padded, digits_ne_nil]

theorem all_isAsciiDigit_padded (width n : Nat) : (padded width n).all isAsciiDigit = true := by
  have hzero : isAsciiDigit '0' = true := by decide
  simp [padded, List.all_append, all_isAsciiDigit_digits, List.all_replicate, hzero]

theorem exists_cons_padded (width n : Nat) :
    ∃ d ds, padded width n = d :: ds ∧ isAsciiDigit d = true := by
  obtain ⟨d, ds, hds⟩ := List.exists_cons_of_ne_nil (padded_ne_nil width n)
  have hall := all_isAsciiDigit_padded width n
  rw [hds, List.all_cons, Bool.and_eq_true] at hall
  exact ⟨d, ds, hds, hall.1⟩

theorem appendDigits_replicate_zero (count : Nat) :
    appendDigits 0 (List.replicate count '0') = 0 := by
  induction count with
  | zero => rfl
  | succ count ih =>
    have hzero : 10 * 0 + digitValue '0' = 0 := by decide
    rw [List.replicate_succ, appendDigits, List.foldl_cons, hzero]
    exact ih

/-- Leading zeros add nothing to the value that is read back. -/
theorem natOfDigits?_padded (width n : Nat) : natOfDigits? (padded width n) = some n := by
  have hvalue : appendDigits 0 (padded width n) = n := by
    rw [padded, appendDigits_append, appendDigits_replicate_zero, appendDigits_digits]
  rw [natOfDigits?, hvalue, all_isAsciiDigit_padded]
  simp [padded_ne_nil]

end RecordSieve.Decimal
