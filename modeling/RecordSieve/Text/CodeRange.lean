/-
RecordSieve.Text.CodeRange — look-ups in tables of code points.

A character property is carried as a short table of ranges.  Two shapes
are enough: closed ranges, and stepped runs for the alphabets that
alternate capital and small letters.
-/

namespace RecordSieve.Text

/-- Whether `n` lies in one of the closed ranges. -/
def inRanges (ranges : List (Nat × Nat)) (n : Nat) : Bool :=
  ranges.any fun r => r.1 ≤ n && n ≤ r.2

/-- Whether `n` is one of `first`, `first + step`, … up to `last`. -/
def inRun (first last step n : Nat) : Bool :=
  first ≤ n && n ≤ last && (n - first) % step == 0

theorem inRanges_eq_true_iff {ranges : List (Nat × Nat)} {n : Nat} :
    inRanges ranges n = true ↔ ∃ r ∈ ranges, r.1 ≤ n ∧ n ≤ r.2 := by
  simp [inRanges]

end RecordSieve.Text
