/-
RecordSieve.Proofs.Calendar.Fraction — the digits after a decimal point,
scaled to nanoseconds.

The fraction of a time has one to nine decimal digits and that of a
duration one to seven, of any script (`captured_iff`).  It has a value if
the digits are ASCII, and the value is a number of nanoseconds that is
exactly the decimal fraction the digits denote (`fractionValue`,
`nanos_eq`).  All else follows from that: zeros at the end add nothing, and
fractions are ordered as their decimals are.

Digits are counted in bytes, and the scaling is done in 32 bits without
looking at its results.  `scaleInWords` takes the same steps one by one and
stops at the first that leaves its range.  None does, for any text at all,
as long as at most nine bytes are allowed; with ten, the exponent of the
power of ten can be negative (`scaleInWords_ok_iff`).
-/
import RecordSieve.Proofs.Calendar.NumericText
import RecordSieve.Proofs.Duration.Elapsed
import RecordSieve.Proofs.Value.Integer

namespace RecordSieve

open Text Decimal

/-! ## Decimal fractions -/

namespace Decimal

/-- The number that digits after a decimal point denote: each is worth a
tenth of what it is worth one place to the left. -/
def fractionValue : List Char → ℚ
  | [] => 0
  | d :: ds => ((d.toNat - '0'.toNat : ℕ) + fractionValue ds) / 10

variable {ds : List Char} {n : ℕ}

theorem appendDigits_eq (start : ℕ) (ds : List Char) :
    (appendDigits start ds : ℚ) = (start + fractionValue ds) * 10 ^ ds.length := by
  induction ds generalizing start with
  | nil => simp [appendDigits, fractionValue]
  | cons d ds ih =>
    have hstep : appendDigits start (d :: ds) = appendDigits (10 * start + digitValue d) ds := rfl
    have hdigit : digitValue d = d.toNat - '0'.toNat := rfl
    rw [hstep, ih, hdigit, fractionValue, List.length_cons]
    push_cast
    ring

theorem fractionValue_of_number (h : natOfDigits? ds = some n) :
    (n : ℚ) = fractionValue ds * 10 ^ ds.length := by
  rw [(Calendar.natOfDigits?_eq_some h).2.2, appendDigits_eq]
  simp

theorem fractionValue_zeros (count : ℕ) : fractionValue (List.replicate count '0') = 0 := by
  induction count with
  | zero => rfl
  | succ count ih => simp [List.replicate_succ, fractionValue, ih]

theorem fractionValue_append_zeros (ds : List Char) (count : ℕ) :
    fractionValue (ds ++ List.replicate count '0') = fractionValue ds := by
  induction ds with
  | nil => exact fractionValue_zeros count
  | cons d ds ih => simp [fractionValue, ih]

end Decimal

namespace Calendar

/-! ## Texts that are captured -/

/-- The text stands as the fraction of a time, or of a duration, where
`most` digits are allowed. -/
inductive Captured : ℕ → List Char → Prop
  | time {cs ds : List Char} {form : NumericForm} {t : TimeForm}
      (scanned : NumericForm.scan? cs = some form) (time : form.time = some t)
      (fraction : t.fraction = some ds) : Captured 9 ds
  | duration {comma : Bool} {cs ds : List Char} {form : Duration.ElapsedForm}
      (scanned : Duration.ElapsedForm.scan? comma cs = some form)
      (fraction : form.fraction = some ds) : Captured 7 ds

variable {most count nanos : ℕ} {ds : List Char}

theorem digitText_of_secondsCut {comma : Bool} {cs : List Char} {seconds : Option (List Char)}
    (h : Duration.SecondsCut comma cs seconds (some ds)) : DigitText 1 7 ds := by
  cases h with
  | fraction _ _ hfs => exact (digitText_of_digitField? hfs).1

theorem digitText_of_ascii {least : ℕ} (hds : ∀ d ∈ ds, isAsciiDigit d = true)
    (hleast : least ≤ ds.length) (hmost : ds.length ≤ most) : DigitText least most ds :=
  ⟨fun d hd => isDecimalDigit_of_isAsciiDigit (hds d hd), hleast, hmost⟩

theorem digitText_zero : DigitText 1 2 ['0'] :=
  digitText_of_ascii (by decide) (by decide) (by decide)

theorem digitText_zeros : DigitText 2 2 ['0', '0'] :=
  digitText_of_ascii (by decide) (by decide) (by decide)

theorem mem_append_zeros {d : Char} (h : d ∈ ds ++ List.replicate count '0') : d ∈ ds ∨ d = '0' :=
  (List.mem_append.mp h).imp_right List.eq_of_mem_replicate

theorem DigitText.append_zeros {least : ℕ} (h : DigitText least most ds)
    (hlength : ds.length + count ≤ most) :
    DigitText least most (ds ++ List.replicate count '0') := by
  refine ⟨fun d hd => ?_, ?_, by simpa using hlength⟩
  · cases mem_append_zeros hd with
    | inl hd => exact h.digits d hd
    | inr hzero => exact hzero ▸ digitText_zero.digits '0' List.mem_cons_self
  · rw [List.length_append]
    exact Nat.le_add_right_of_le h.least_le

/-- The digits are the fraction of a time of day. -/
theorem captured_nine (h : DigitText 1 9 ds) : Captured 9 ds := by
  have hmark : TimeMark ['T'] := .letter (by decide)
  have hsecond := SecondText.present digitText_zeros (.present (by decide : '.' ∈ ['.', ',']) h)
  have hblank : isAllBlank [] = true := rfl
  have htime := TimeText.intro hmark digitText_zero digitText_zeros hsecond hblank .absent hblank
    .absent hblank
  have hyear : DigitText 1 4 ['0'] := digitText_zero.mono (by decide)
  have hdash : isDateSeparator '-' = true := rfl
  have hform := NumericForm.IsText.intro hblank hyear hdash digitText_zero hdash hyear (.time htime)
  exact .time hform.scan?_eq rfl rfl

/-- The digits are the fraction of a time that has passed. -/
theorem captured_seven (h : DigitText 1 7 ds) : Captured 7 ds := by
  have hpoint : EndsRun ('.' :: ds) := endsRun_cons (isDecimalDigit_eq_false (by decide))
  have hsecond := digitText_zero.digitField?_eq hpoint
  have hfraction := h.digitField?_eq endsRun_nil
  rw [List.append_nil] at hfraction
  have hseconds : Duration.scanSeconds? false (':' :: '0' :: '.' :: ds) =
      some (some ['0'], some ds) := by
    rw [Duration.scanSeconds?, ← List.singleton_append, hsecond]
    simp [hfraction]
  have hminute := digitText_zero.digitField?_eq (endsRun_colon ('0' :: '.' :: ds))
  have hhour := digitText_zero.digitField?_eq (endsRun_colon ('0' :: ':' :: '0' :: '.' :: ds))
  have hsign : Duration.dropMinus ('0' :: ':' :: '0' :: ':' :: '0' :: '.' :: ds) =
      (false, '0' :: ':' :: '0' :: ':' :: '0' :: '.' :: ds) := rfl
  have hnumber : natOfDigits? ['0'] = some 0 := rfl
  obtain ⟨days, hdays, -⟩ := Duration.scanDays_text ('0' :: ':' :: '0' :: '.' :: ds) .absent
    (Nat.zero_le _) hnumber
  have hform : Duration.ElapsedForm.scan? false ('0' :: ':' :: '0' :: ':' :: '0' :: '.' :: ds) =
      some ⟨false, days, ['0'], ['0'], some ['0'], some ds⟩ := by
    rw [Duration.ElapsedForm.scan?, hsign]
    simp only [List.nil_append, List.singleton_append] at hdays hhour hminute
    simp [hdays, hhour, hminute, hseconds, dropChar?]
  exact .duration hform rfl

/-- What is captured as a fraction are one to nine digits in a time, and
one to seven in a duration. -/
theorem captured_iff : Captured most ds ↔ (most = 9 ∨ most = 7) ∧ DigitText 1 most ds := by
  constructor
  · intro h
    cases h with
    | time scanned time fraction =>
      have htext := NumericForm.scan?_eq_some_iff.mp scanned
      exact ⟨.inl rfl, (htext.fraction _ time _ fraction).1⟩
    | duration scanned fraction =>
      obtain ⟨_, _, _, _, -, -, -, -, hseconds⟩ := Duration.scan?_eq_some scanned
      rw [fraction] at hseconds
      exact ⟨.inr rfl, digitText_of_secondsCut (Duration.secondsCut_of_scan hseconds)⟩
  · intro h
    obtain ⟨rfl | rfl, hds⟩ := h
    · exact captured_nine hds
    · exact captured_seven hds

/-! ## Values -/

/-- The digits have a value as a fraction of at most `most` digits. -/
structure FractionDigits (most : ℕ) (ds : List Char) : Prop where
  ne_nil : ds ≠ []
  length_le : ds.length ≤ most
  ascii : ∀ d ∈ ds, isAsciiDigit d = true

theorem fractionDigits_iff :
    FractionDigits most ds ↔ ds ≠ [] ∧ ds.length ≤ most ∧ ∀ d ∈ ds, isAsciiDigit d = true :=
  ⟨fun h => ⟨h.ne_nil, h.length_le, h.ascii⟩, fun h => ⟨h.1, h.2.1, h.2.2⟩⟩

theorem exists_nanos_iff : (∃ nanos, fractionNanos? most ds = some nanos) ↔ FractionDigits most ds := by
  constructor
  · intro h
    obtain ⟨nanos, hnanos⟩ := h
    rw [fractionNanos?_eq, Option.ite_none_right_eq_some, Option.map_eq_some_iff] at hnanos
    obtain ⟨hlength, n, hn, -⟩ := hnanos
    exact ⟨(natOfDigits?_eq_some hn).1, hlength, isAsciiDigit_of_number hn⟩
  · intro h
    obtain ⟨n, hn⟩ := exists_natOfDigits? h.ne_nil h.ascii
    exact ⟨_, fractionNanos?_of_le hn h.length_le⟩

theorem fractionNanos?_eq_none_iff : fractionNanos? most ds = none ↔ ¬ FractionDigits most ds := by
  rw [← exists_nanos_iff, Option.eq_none_iff_forall_ne_some, not_exists]

/-- The nanoseconds are the decimal fraction of a second. -/
theorem nanos_eq (hmost : most ≤ 9) (h : fractionNanos? most ds = some nanos) :
    (nanos : ℚ) = fractionValue ds * 10 ^ 9 := by
  rw [fractionNanos?_eq, Option.ite_none_right_eq_some, Option.map_eq_some_iff] at h
  obtain ⟨hlength, n, hn, rfl⟩ := h
  have hnine : ds.length + (9 - ds.length) = 9 := by omega
  calc ((n * tenTo (9 - ds.length) : ℕ) : ℚ)
      = n * 10 ^ (9 - ds.length) := by simp [tenTo]
    _ = fractionValue ds * 10 ^ ds.length * 10 ^ (9 - ds.length) := by
      rw [fractionValue_of_number hn]
    _ = fractionValue ds * 10 ^ (ds.length + (9 - ds.length)) := by rw [pow_add, mul_assoc]
    _ = fractionValue ds * 10 ^ 9 := by rw [hnine]

theorem fractionDigits_append_zeros (hne : ds ≠ []) (hlength : ds.length + count ≤ most) :
    FractionDigits most (ds ++ List.replicate count '0') ↔ FractionDigits most ds := by
  constructor
  · intro h
    exact ⟨hne, by omega, fun d hd => h.ascii d (List.mem_append_left _ hd)⟩
  · intro h
    refine ⟨by simp [hne], by simpa using hlength, fun d hd => ?_⟩
    cases mem_append_zeros hd with
    | inl hd => exact h.ascii d hd
    | inr hzero => rw [hzero]; decide

/-- Zeros at the end add nothing, nor do they take a value away. -/
theorem fractionNanos?_append_zeros (hmost : most ≤ 9) (hne : ds ≠ [])
    (hlength : ds.length + count ≤ most) :
    fractionNanos? most (ds ++ List.replicate count '0') = fractionNanos? most ds := by
  have hdigits := fractionDigits_append_zeros hne hlength
  by_cases h : FractionDigits most ds
  · obtain ⟨m, hm⟩ := exists_nanos_iff.mpr h
    obtain ⟨n, hn⟩ := exists_nanos_iff.mpr (hdigits.mpr h)
    have hvalues : (n : ℚ) = m := by
      rw [nanos_eq hmost hm, nanos_eq hmost hn, fractionValue_append_zeros]
    rw [hm, hn, Nat.cast_injective hvalues]
  · rw [fractionNanos?_eq_none_iff.mpr h, fractionNanos?_eq_none_iff.mpr (hdigits.not.mpr h)]

/-- Values are ordered as the decimal fractions are, whatever the limits. -/
theorem nanos_order {most' m n : ℕ} {as bs : List Char} (hmost : most ≤ 9) (hmost' : most' ≤ 9)
    (hm : fractionNanos? most as = some m) (hn : fractionNanos? most' bs = some n) :
    (m < n ↔ fractionValue as < fractionValue bs) ∧
      (m = n ↔ fractionValue as = fractionValue bs) := by
  have hunit : (0 : ℚ) < 10 ^ 9 := by norm_num
  constructor
  · rw [← Nat.cast_lt (α := ℚ), nanos_eq hmost hm, nanos_eq hmost' hn, mul_lt_mul_iff_left₀ hunit]
  · rw [← Nat.cast_inj (R := ℚ), nanos_eq hmost hm, nanos_eq hmost' hn,
      mul_left_inj' (ne_of_gt hunit)]

/-! ## Scaling in 32 bits -/

/-- The steps of the scaling that could leave their range. -/
inductive ScaleStep where
  | length
  | exponent
  | power
  | product
  deriving DecidableEq, Repr

/-- The result of a step, if it is a number of 32 bits without a sign. -/
def inWord (step : ScaleStep) (result : ℤ) : Except ScaleStep ℕ :=
  if 0 ≤ result ∧ result < 2 ^ 32 then .ok result.toNat else .error step

/-- Leaves out a plus sign in front. -/
def dropPlus : List Char → List Char
  | '+' :: cs => cs
  | cs => cs

/-- The number of 32 bits that a text denotes. -/
def wordOfText? (cs : List Char) : Option ℕ := (natOfDigits? (dropPlus cs)).filter (· < 2 ^ 32)

/-- The nanoseconds of the digits after a decimal point, each step taken in
32 bits. -/
def scaleInWords (most : ℕ) (cs : List Char) : Except ScaleStep (Option ℕ) :=
  if cs.isEmpty || most < byteLength cs then .ok none
  else
    match wordOfText? cs with
    | none => .ok none
    | some value => do
      let length ← inWord .length (byteLength cs)
      let exponent ← inWord .exponent (9 - length)
      let power ← inWord .power (10 ^ exponent)
      let product ← inWord .product (value * power)
      return some product

theorem inWord_bind {β : Type} {step : ScaleStep} {result : ℤ} {n : ℕ} {next : ℕ → Except ScaleStep β}
    (hresult : result = n) (hn : n < 2 ^ 32) : (inWord step result >>= next) = next n := by
  have hword : inWord step result = .ok n := by
    unfold inWord
    rw [hresult, if_pos ⟨by omega, by omega⟩, Int.toNat_natCast]
  rw [hword]
  rfl

theorem dropPlus_of_digit (h : ∀ d ∈ ds, isDecimalDigit d = true) : dropPlus ds = ds := by
  unfold dropPlus
  split
  · have hplus := h '+' List.mem_cons_self
    rw [isDecimalDigit_eq_false (by decide)] at hplus
    cases hplus
  · rfl

/-- The digits of a number are no more than the bytes of its text. -/
theorem length_dropPlus_le {cs : List Char} {n : ℕ} (hn : natOfDigits? (dropPlus cs) = some n) :
    (dropPlus cs).length ≤ byteLength cs := by
  rw [← byteLength_of_oneByte (oneByte_of_natOfDigits? hn)]
  unfold dropPlus
  split
  · exact Nat.le_add_left _ _
  · exact Nat.le_refl _

theorem wordOfText?_of_le {cs : List Char} (h : byteLength cs ≤ 9) :
    wordOfText? cs = natOfDigits? (dropPlus cs) := by
  unfold wordOfText?
  cases hn : natOfDigits? (dropPlus cs) with
  | none => rfl
  | some n =>
    have hlt : n < 2 ^ 32 := calc
      n < tenTo (dropPlus cs).length := natOfDigits?_lt hn
      _ ≤ tenTo 9 := tenTo_le_tenTo (Nat.le_trans (length_dropPlus_le hn) h)
      _ < 2 ^ 32 := by decide
    exact if_pos (decide_eq_true hlt)

/-- No step leaves its range. -/
theorem scaleInWords_of_number {cs : List Char} {n : ℕ} (hmost : most ≤ 9)
    (hle : byteLength cs ≤ most) (hn : natOfDigits? (dropPlus cs) = some n) :
    scaleInWords most cs = .ok (some (n * tenTo (9 - byteLength cs))) := by
  have hvalue := wordOfText?_of_le (Nat.le_trans hle hmost)
  rw [hn] at hvalue
  have hne : cs ≠ [] := by
    intro hnil
    rw [hnil] at hn
    cases hn
  have hguard : ¬ (cs.isEmpty || most < byteLength cs) = true := by simp [hne, hle]
  have hexponent : (9 : ℤ) - byteLength cs = (9 - byteLength cs : ℕ) := by omega
  have hpower : (10 : ℤ) ^ (9 - byteLength cs) = tenTo (9 - byteLength cs) := by simp [tenTo]
  have hpower_lt : tenTo (9 - byteLength cs) < 2 ^ 32 :=
    Nat.lt_of_le_of_lt (tenTo_le_tenTo (Nat.sub_le _ _)) (by decide)
  have hproduct_lt : n * tenTo (9 - byteLength cs) < 2 ^ 32 :=
    Nat.lt_trans (number_mul_tenTo_lt hn (length_dropPlus_le hn) (Nat.le_trans hle hmost)) (by decide)
  unfold scaleInWords
  rw [if_neg hguard, hvalue]
  dsimp only
  rw [inWord_bind rfl (by omega), inWord_bind hexponent (by omega), inWord_bind hpower hpower_lt,
    inWord_bind (Nat.cast_mul _ _).symm hproduct_lt]
  rfl

/-- What comes of any text at all, if at most nine bytes are allowed. -/
theorem scaleInWords_of_le {cs : List Char} (hmost : most ≤ 9) :
    scaleInWords most cs = .ok (if byteLength cs ≤ most then
      (natOfDigits? (dropPlus cs)).map (· * tenTo (9 - byteLength cs)) else none) := by
  by_cases hle : byteLength cs ≤ most
  · rw [if_pos hle]
    cases hn : natOfDigits? (dropPlus cs) with
    | some n => exact scaleInWords_of_number hmost hle hn
    | none =>
      unfold scaleInWords
      rw [wordOfText?_of_le (Nat.le_trans hle hmost), hn]
      exact ite_self _
  · have hguard : (cs.isEmpty || most < byteLength cs) = true := by simp [Nat.not_le.mp hle]
    unfold scaleInWords
    rw [if_neg hle, if_pos hguard]

/-- Ten bytes are too many: the exponent of ten zeros is negative. -/
theorem scaleInWords_ok_iff : (∀ cs, ∃ value, scaleInWords most cs = .ok value) ↔ most ≤ 9 := by
  constructor
  · intro h
    by_contra hmost
    obtain ⟨value, hvalue⟩ := h (List.replicate 10 '0')
    have hzeros : scaleInWords most (List.replicate 10 '0') = .error .exponent := by
      have hbytes : byteLength (List.replicate 10 '0') = 10 := by decide
      have hnumber : wordOfText? (List.replicate 10 '0') = some 0 := by decide
      have hle : ¬ most < 10 := by omega
      unfold scaleInWords
      rw [hbytes, hnumber]
      simp [hle, inWord]
      rfl
    rw [hzeros] at hvalue
    cases hvalue
  · intro hmost cs
    exact ⟨_, scaleInWords_of_le hmost⟩

/-- The steps in 32 bits give what the digits have as their value. -/
theorem scaleInWords_eq (hmost : most ≤ 9) (hds : ∀ d ∈ ds, isDecimalDigit d = true) :
    scaleInWords most ds = .ok (fractionNanos? most ds) := by
  rw [scaleInWords_of_le hmost, dropPlus_of_digit hds]
  rfl

/-! ## Captured fractions -/

/-- Captured as a fraction are one to nine decimal digits of any script in
a time, and one to seven in a duration.  Their scaling takes no step out of
32 bits.  ASCII digits give exactly their number times the power of ten
that is left of nine places, which is less than a second.  Zeros that are
still allowed can be added at the end, and fractions, of whichever kind,
are ordered as the decimals they denote.  Digits of another script have no
value, nor have too many digits or none. -/
theorem fraction_scaled_exactly :
    (∀ most ds, Captured most ds ↔ (most = 9 ∨ most = 7) ∧ DigitText 1 most ds) ∧
    (∀ most ds, Captured most ds → (∀ d ∈ ds, isAsciiDigit d = true) →
      ∃ n, Numeral ds n ∧ n * 10 ^ (9 - ds.length) < 10 ^ 9 ∧
        scaleInWords most ds = .ok (some (n * 10 ^ (9 - ds.length))) ∧
        fractionNanos? most ds = some (n * 10 ^ (9 - ds.length))) ∧
    (∀ most ds count, Captured most ds → ds.length + count ≤ most →
      Captured most (ds ++ List.replicate count '0') ∧
        fractionNanos? most (ds ++ List.replicate count '0') = fractionNanos? most ds) ∧
    (∀ most most' as bs m n, Captured most as → Captured most' bs →
      fractionNanos? most as = some m → fractionNanos? most' bs = some n →
        (m < n ↔ fractionValue as < fractionValue bs) ∧
          (m = n ↔ fractionValue as = fractionValue bs)) ∧
    ∀ most ds, most = 9 ∨ most = 7 → (∀ d ∈ ds, isDecimalDigit d = true) →
      scaleInWords most ds = .ok (fractionNanos? most ds) ∧
        (fractionNanos? most ds = none ↔
          ds = [] ∨ most < ds.length ∨ ∃ d ∈ ds, isAsciiDigit d = false) := by
  have hnine : ∀ {most ds}, Captured most ds → most ≤ 9 := by
    intro most ds h
    have hlimit := (captured_iff.mp h).1
    omega
  refine ⟨fun most ds => captured_iff, fun most ds h hascii => ?_, fun most ds count h hlength => ?_,
    fun most most' as bs m n ha hb hm hn => nanos_order (hnine ha) (hnine hb) hm hn,
    fun most ds hlimit hds => ⟨scaleInWords_eq (by omega) hds, ?_⟩⟩
  · obtain ⟨-, hdigits⟩ := captured_iff.mp h
    obtain ⟨n, hn⟩ := exists_natOfDigits? (hdigits.isField Nat.one_pos).ne_nil hascii
    have hvalue := fractionNanos?_of_le hn hdigits.le_most
    refine ⟨n, natOfDigits?_eq_some_iff.mp hn, ?_, ?_, hvalue⟩
    · exact fractionNanos?_lt (hnine h) hvalue
    · rw [scaleInWords_eq (hnine h) hdigits.digits, hvalue]
      rfl
  · obtain ⟨hlimit, hdigits⟩ := captured_iff.mp h
    exact ⟨captured_iff.mpr ⟨hlimit, hdigits.append_zeros hlength⟩,
      fractionNanos?_append_zeros (hnine h) (hdigits.isField Nat.one_pos).ne_nil hlength⟩
  · rw [fractionNanos?_eq_none_iff, fractionDigits_iff]
    simp only [not_and_or, not_not, not_le, not_forall, Bool.not_eq_true, exists_prop]

/-- A quarter is written with two digits or with three, and is less than
three tenths, in a time or in a duration; two tenths in the digits of
another script have no value. -/
theorem fraction_scaled_exactly_quarter :
    (Captured 9 ['2', '5'] ∧ scaleInWords 9 ['2', '5'] = .ok (some (25 * 10 ^ 7)) ∧
      fractionNanos? 9 ['2', '5'] = some (25 * 10 ^ 7)) ∧
    (Captured 9 ['2', '5', '0'] ∧
      fractionNanos? 9 ['2', '5', '0'] = fractionNanos? 9 ['2', '5']) ∧
    (Captured 7 ['3'] ∧ fractionNanos? 7 ['3'] = some 300000000 ∧
      fractionValue ['2', '5'] < fractionValue ['3']) ∧
    Captured 7 ['٢'] ∧ fractionNanos? 7 ['٢'] = none := by
  obtain ⟨hcaptured, hexact, hzeros, horder, hnone⟩ := fraction_scaled_exactly
  have hquarter : Captured 9 ['2', '5'] :=
    (hcaptured _ _).mpr ⟨.inl rfl, digitText_of_ascii (by decide) (by decide) (by decide)⟩
  have htenths : Captured 7 ['3'] :=
    (hcaptured _ _).mpr ⟨.inr rfl, digitText_of_ascii (by decide) (by decide) (by decide)⟩
  have hdigit : ∀ d ∈ ['٢'], isDecimalDigit d = true := by decide +kernel
  obtain ⟨n, hn, -, hwords, hvalue⟩ := hexact _ _ hquarter (by decide)
  have hnumber : n = 25 := hn.value.trans (by decide)
  subst hnumber
  have hthree : fractionNanos? 7 ['3'] = some 300000000 := by decide
  have horder' := (horder _ _ _ _ _ _ hquarter htenths hvalue hthree).1.mp (by decide)
  exact ⟨⟨hquarter, hwords, hvalue⟩, hzeros _ _ 1 hquarter (by decide),
    ⟨htenths, hthree, horder'⟩, (hcaptured _ _).mpr ⟨.inr rfl, hdigit, by decide, by decide⟩,
    (hnone _ _ (.inr rfl) hdigit).2.mpr (.inr (.inr ⟨_, List.mem_cons_self, by decide⟩))⟩

end Calendar

end RecordSieve
