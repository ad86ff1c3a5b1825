/-
RecordSieve.Proofs.Value.SafeSteps — the steps that are taken without a
check.

Numbers are summed and multiplied, integers narrowed, and texts sliced
at byte positions, in places where nothing looks at the result.
`SafeSteps` says that there is nothing to look for: the numbers stay
inside 32 bits, an integer has 64, a duration can be negated, and a text
is sliced at the end of a match, which is the end of a character.
-/
import RecordSieve.Collation
import RecordSieve.Proofs.Value.Coercion

namespace RecordSieve

/-! ## Integers -/

theorem Coercion.integerOfNumber_range {n : JsonNumber} {i : Int}
    (h : integerOfNumber n = .ok i) : Decimal.fitsInt64 i = true := by
  unfold integerOfNumber at h
  cases hheld : heldInt64? n with
  | some j =>
    rw [hheld] at h
    cases h
    cases n with
    | double x => cases hheld
    | integer k hk =>
      rw [heldInt64?, Option.ite_none_right_eq_some] at hheld
      obtain ⟨hfits, hk⟩ := hheld
      cases hk
      exact hfits
  | none =>
    rw [hheld] at h
    dsimp only at h
    split at h
    · cases h
      have hlow := Int.le_max_left Decimal.int64Min (min n.toBinary64.truncate Decimal.int64Max)
      have hhigh := Int.max_le.mpr ⟨(by decide : Decimal.int64Min ≤ Decimal.int64Max),
        Int.min_le_right n.toBinary64.truncate Decimal.int64Max⟩
      exact Bool.and_eq_true_iff.mpr ⟨decide_eq_true hlow, decide_eq_true hhigh⟩
    · split at h <;> cases h

theorem Coercion.toInteger_range {value : Json} {i : Int} (h : toInteger value = .ok i) :
    Decimal.int64Min ≤ i ∧ i ≤ Decimal.int64Max := by
  have hfits : Decimal.fitsInt64 i = true := by
    cases value with
    | number n => exact integerOfNumber_range h
    | string s =>
      rw [toInteger] at h
      cases hi : Decimal.int64OfText? (Text.trim s.toList) with
      | none => rw [hi] at h; cases h
      | some j =>
        rw [hi] at h
        cases h
        exact (Option.filter_eq_some_iff.mp hi).2
    | bool b => cases b <;> cases h <;> decide
    | null => cases h
    | array items => cases h
    | object members => cases h
  simpa [Decimal.fitsInt64] using hfits

/-! ## All steps -/

/-- The steps that are taken without a check give what they should. -/
structure SafeSteps : Prop where
  year : ∀ cs form, Calendar.NumericForm.scan? cs = some form → ∀ ds ∈ [form.a, form.c],
    ∀ year, Calendar.yearField? ds = some year → 0 ≤ year ∧ year < 10000
  hour : ∀ half hour hour', Calendar.hourOfHalf? half hour = some hour' → hour' < 24
  offset : ∀ negative hours minutes seconds,
    Calendar.offsetSeconds? negative hours minutes = some seconds →
      -53940 ≤ seconds ∧ seconds ≤ 53940
  nanos : ∀ most ds nanos, most ≤ 9 → Calendar.fractionNanos? most ds = some nanos →
    nanos < 1000000000
  negation : ∀ d : Duration, -Duration.maxNanos ≤ -d.nanos ∧ -d.nanos ≤ Duration.maxNanos
  integer : ∀ value i, Coercion.toInteger value = .ok i →
    Decimal.int64Min ≤ i ∧ i ≤ Decimal.int64Max
  /-- The needle has been found in a text after `front`. -/
  slice : ∀ flags b front rest, (Collation.fold flags b).isPrefixOf rest = true →
    Text.cutAtByte?
        (Text.byteLength front + Text.byteLength (Collation.fold flags b)) (front ++ rest) =
      some (front ++ Collation.fold flags b, rest.drop (Collation.fold flags b).length)

theorem safeSteps : SafeSteps where
  year cs form hform ds hds year hyear := by
    have hcut := Calendar.NumericForm.scan?_cut hform
    refine Calendar.yearField?_bounds ?_ hyear
    simp only [List.mem_cons, List.not_mem_nil, or_false] at hds
    rcases hds with rfl | rfl
    · exact hcut.a
    · exact hcut.c
  hour _ _ _ h := Calendar.hourOfHalf?_lt h
  offset _ _ _ _ h := Calendar.offsetSeconds?_bounds h
  nanos _ _ _ hmost h := Calendar.fractionNanos?_lt hmost h
  negation d := d.neg.inRange
  integer _ _ h := Coercion.toInteger_range h
  slice flags b front rest h := by
    obtain ⟨rest, rfl⟩ := List.isPrefixOf_iff_prefix.mp h
    rw [List.drop_left, ← Text.byteLength_append, ← List.append_assoc]
    exact Text.cutAtByte?_append _ _

end RecordSieve
