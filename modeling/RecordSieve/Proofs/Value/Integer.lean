/-
RecordSieve.Proofs.Value.Integer — integers are read exactly.

A number that is not held as a signed 64-bit integer is read by way of a
double, in three steps that could each lose something: it is rounded to a
double, compared with the bounds, and clamped to them.  Nothing is lost.
A number that is rounded is beyond the range and stays there
(`value_ofInt_of_large`), the bounds are doubles (`value_int64Bound`), and
what is between them is not clamped (`clampToInt64_of_value`).  So what a
number is read as depends on its value alone (`integerOfNumber_of_value`,
`integerOfNumber_of_fraction`).

A text is read by a grammar of a sign and digits (`IntegerText`), each
digit worth its power of ten, and the digits that an integer is written
with are a text of it.
-/
import Mathlib.Data.Nat.Digits.Defs
import RecordSieve.Proofs.Calendar.Rereading
import RecordSieve.Proofs.Decimal.WholeDouble
import RecordSieve.Proofs.Value.Coercion

namespace RecordSieve

open Text Decimal

/-- The number that a JSON number is. -/
def JsonNumber.value : JsonNumber → ℚ
  | .integer i _ => i
  | .double x => x.value

/-- The signed integers of 64 bits. -/
def IsInt64 (k : ℤ) : Prop := -2 ^ 63 ≤ k ∧ k < 2 ^ 63

theorem fitsInt64_iff {k : ℤ} : fitsInt64 k = true ↔ IsInt64 k := by
  rw [fitsInt64, Bool.and_eq_true, decide_eq_true_eq, decide_eq_true_eq]
  unfold int64Min int64Max IsInt64
  omega

instance (k : ℤ) : Decidable (IsInt64 k) := inferInstanceAs (Decidable (_ ∧ _))

/-! ## Numbers -/

namespace Coercion

variable {x : Binary64} {n : JsonNumber} {k : ℤ}

theorem units_int64Bound (negative : Bool) : (int64Bound negative).units =
    (if negative then -(twoTo 63 : ℤ) else twoTo 63) * unitsPerOne := by
  have hmagnitude : (int64Bound negative).magnitude = twoTo 63 * unitsPerOne := calc
    (int64Bound negative).magnitude = twoTo (unitExponent + 63) := by dsimp only [int64Bound]
    _ = twoTo (63 + unitExponent) := congrArg twoTo (Nat.add_comm unitExponent 63)
    _ = twoTo 63 * unitsPerOne := by
      unfold unitsPerOne
      exact twoTo_add 63 unitExponent
  unfold Binary64.units
  rw [hmagnitude, Nat.cast_mul]
  cases negative with
  | false => rfl
  | true => exact Int.neg_mul_eq_neg_mul _ _

/-- The bounds are the ends of the range. -/
theorem value_int64Bound (negative : Bool) :
    (int64Bound negative).value = (if negative then -(twoTo 63 : ℤ) else twoTo 63 : ℤ) :=
  Binary64.value_eq_iff.mpr (units_int64Bound negative)

theorem inInt64Range_iff (h : x.value = k) : inInt64Range x = true ↔ IsInt64 k := by
  unfold inInt64Range
  rw [Bool.and_eq_true, bne_iff_ne, beq_iff_eq, Binary64.order_ne_gt_iff,
    Binary64.order_eq_lt_iff, value_int64Bound, value_int64Bound, h, Int.cast_le, Int.cast_lt]
  rfl

theorem clampToInt64_of_value (h : x.value = k) (hk : IsInt64 k) : clampToInt64 x = k := by
  unfold clampToInt64
  rw [Binary64.truncate_of_value h, int64Min, int64Max]
  unfold IsInt64 at hk
  omega

/-- What comes of a number that is taken as a whole double. -/
theorem integerOfNumber_of_double (hheld : heldInt64? n = none) (h : n.toBinary64.value = k) :
    integerOfNumber n =
      if IsInt64 k then .ok k else Attempt.refuse (.outOfRange (String.ofList n.write)) := by
  have hwhole : n.toBinary64.isWhole = true := Binary64.isWhole_iff.mpr ⟨k, h⟩
  unfold integerOfNumber
  rw [hheld]
  dsimp only
  rw [hwhole, Bool.true_and]
  by_cases hk : IsInt64 k
  · rw [if_pos hk, if_pos ((inInt64Range_iff h).mpr hk), clampToInt64_of_value h hk]
  · rw [if_neg hk, if_neg fun hrange => hk ((inInt64Range_iff h).mp hrange), if_pos rfl]

/-- A whole number is read as itself, or is out of range. -/
theorem integerOfNumber_of_value (h : n.value = k) :
    integerOfNumber n =
      if IsInt64 k then .ok k else Attempt.refuse (.outOfRange (String.ofList n.write)) := by
  cases n with
  | double x => exact integerOfNumber_of_double rfl h
  | integer i hi =>
    have hi' : i = k := Int.cast_injective h
    subst hi'
    by_cases hk : IsInt64 i
    · have hheld : heldInt64? (.integer i hi) = some i := if_pos (fitsInt64_iff.mpr hk)
      unfold integerOfNumber
      rw [hheld, if_pos hk]
    · have hheld : heldInt64? (.integer i hi) = none :=
        if_neg fun hfits => hk (fitsInt64_iff.mp hfits)
      -- Of the integers that a number can be, only those from 2⁶³ on are left.
      have hlarge : 2 ^ 63 ≤ i ∧ i < 2 ^ 64 := by
        unfold JsonInteger at hi
        unfold IsInt64 at hk
        omega
      obtain ⟨m, hm, hvalue⟩ := Binary64.value_ofInt_of_large hlarge.1 hlarge.2
      have hm' : ¬ IsInt64 m := by
        unfold IsInt64
        omega
      rw [integerOfNumber_of_double hheld hvalue, if_neg hm', if_neg hk]

theorem integerOfNumber_of_fraction (h : ¬ ∃ k : ℤ, n.value = k) :
    integerOfNumber n = Attempt.refuse (.invalid .integer (String.ofList n.write)) := by
  cases n with
  | integer i hi => exact absurd ⟨i, rfl⟩ h
  | double x =>
    have hwhole : x.isWhole = false :=
      Bool.eq_false_iff.mpr fun hx => h (Binary64.isWhole_iff.mp hx)
    unfold integerOfNumber
    show (if (x.isWhole && inInt64Range x) = true then _ else if x.isWhole = true then _ else _) = _
    rw [hwhole, Bool.false_and, if_neg Bool.false_ne_true, if_neg Bool.false_ne_true]

end Coercion

/-! ## Texts -/

namespace Decimal

variable {cs ds : List Char} {n : ℕ} {k : ℤ}

/-- ASCII digits of a number, each worth its power of ten. -/
structure Numeral (ds : List Char) (n : ℕ) : Prop where
  ne_nil : ds ≠ []
  digit : ∀ d ∈ ds, '0' ≤ d ∧ d ≤ '9'
  value : n = Nat.ofDigits 10 (ds.reverse.map fun d => d.toNat - '0'.toNat)

/-- Digits of a number, with a sign in front or without one. -/
inductive IntegerText : List Char → ℤ → Prop
  | plain {ds : List Char} {n : ℕ} : Numeral ds n → IntegerText ds n
  | plus {ds : List Char} {n : ℕ} : Numeral ds n → IntegerText ('+' :: ds) n
  | minus {ds : List Char} {n : ℕ} : Numeral ds n → IntegerText ('-' :: ds) (-n)

theorem appendDigits_eq_ofDigits (ds : List Char) :
    appendDigits 0 ds = Nat.ofDigits 10 (ds.reverse.map fun d => d.toNat - '0'.toNat) := by
  induction ds using List.reverseRecOn with
  | nil => rfl
  | append_singleton ds d ih =>
    rw [appendDigits_append, ih, List.reverse_append, List.reverse_singleton,
      List.singleton_append, List.map_cons, Nat.ofDigits_cons, Nat.add_comm]
    rfl

theorem natOfDigits?_eq_some_iff : natOfDigits? ds = some n ↔ Numeral ds n := by
  have hdigit : ds.all isAsciiDigit = true ↔ ∀ d ∈ ds, '0' ≤ d ∧ d ≤ '9' := by
    simp [isAsciiDigit]
  constructor
  · intro h
    obtain ⟨hne, hds, hn⟩ := Calendar.natOfDigits?_eq_some h
    exact ⟨hne, hdigit.mp hds, hn.trans (appendDigits_eq_ofDigits ds)⟩
  · intro h
    rw [natOfDigits?, if_pos, appendDigits_eq_ofDigits, h.value]
    rw [hdigit.mpr h.digit, List.isEmpty_eq_false_iff.mpr h.ne_nil]
    rfl

theorem Numeral.splitSign_eq (h : Numeral ds n) : splitSign ds = (false, ds) := by
  unfold splitSign
  split
  · exact absurd (h.digit '-' List.mem_cons_self) (by decide)
  · exact absurd (h.digit '+' List.mem_cons_self) (by decide)
  · rfl

theorem intOfText?_eq {negative : Bool} (h : splitSign cs = (negative, ds)) :
    intOfText? cs = (natOfDigits? ds).map fun n : ℕ => if negative then -(n : ℤ) else n := by
  unfold intOfText?
  rw [h]
  dsimp only
  cases natOfDigits? ds <;> rfl

theorem intOfText?_eq_some_iff : intOfText? cs = some k ↔ IntegerText cs k := by
  constructor
  · intro h
    rcases hsign : splitSign cs with ⟨negative, ds⟩
    rw [intOfText?_eq hsign] at h
    obtain ⟨n, hn, rfl⟩ := Option.map_eq_some_iff.mp h
    have hds := natOfDigits?_eq_some_iff.mp hn
    unfold splitSign at hsign
    split at hsign
    · cases hsign
      exact .minus hds
    · cases hsign
      exact .plus hds
    · cases hsign
      exact .plain hds
  · intro h
    cases h with
    | plain h =>
      rw [intOfText?_eq h.splitSign_eq, natOfDigits?_eq_some_iff.mpr h]
      rfl
    | @plus ds n h =>
      have hsign : splitSign ('+' :: ds) = (false, ds) := rfl
      rw [intOfText?_eq hsign, natOfDigits?_eq_some_iff.mpr h]
      rfl
    | @minus ds n h =>
      have hsign : splitSign ('-' :: ds) = (true, ds) := rfl
      rw [intOfText?_eq hsign, natOfDigits?_eq_some_iff.mpr h]
      rfl

theorem int64OfText?_eq_some_iff : int64OfText? cs = some k ↔ IntegerText cs k ∧ IsInt64 k := by
  rw [int64OfText?, Option.filter_eq_some_iff, intOfText?_eq_some_iff, fitsInt64_iff]

theorem numeral_digits (n : ℕ) : Numeral (digits n) n :=
  natOfDigits?_eq_some_iff.mp (natOfDigits?_digits n)

/-- What an integer is written as is a text of it. -/
theorem integerText_ofInt (k : ℤ) : IntegerText (ofInt k) k := by
  unfold ofInt
  split
  · next hneg =>
    have hk : -(k.natAbs : ℤ) = k := by omega
    have htext := IntegerText.minus (numeral_digits k.natAbs)
    rwa [hk] at htext
  · next hnonneg =>
    have hk : (k.natAbs : ℤ) = k := by omega
    have htext := IntegerText.plain (numeral_digits k.natAbs)
    rwa [hk] at htext

theorem trim_intText (k : ℤ) : trim (intText k).toList = ofInt k := by
  rw [intText, String.toList_ofList, Calendar.trim_of_subset_figures (ofInt_subset k)]

theorem isAllBlank_intText (k : ℤ) : isAllBlank (intText k).toList = false := by
  refine Bool.eq_false_iff.mpr fun hblank => ?_
  have hempty : ofInt k = [] := (trim_intText k).symm.trans (trim_of_isAllBlank hblank)
  unfold ofInt at hempty
  split at hempty
  · cases hempty
  · exact digits_ne_nil _ hempty

end Decimal

/-! ## Coercion -/

variable {options : RuleOptions}

theorem coerce_integer_number (n : JsonNumber) : coerce options .integer (.number n) =
    (Coercion.integerOfNumber n).map fun k => some (.integer k) := by
  have hpresent : Coercion.isAbsent .integer (.number n) = false := rfl
  unfold coerce Coercion.present Coercion.toInteger
  rw [hpresent, if_neg Bool.false_ne_true]
  dsimp only
  cases Coercion.integerOfNumber n <;> rfl

theorem coerce_integer_string {s : String} (h : isAllBlank s.toList = false) :
    coerce options .integer (.string s) =
      (Attempt.ofOption (.invalid .integer s) (int64OfText? (trim s.toList))).map
        fun k => some (.integer k) := by
  have hpresent : Coercion.isAbsent .integer (.string s) = false := by
    rw [Coercion.isAbsent, h, Bool.and_false]
  unfold coerce Coercion.present Coercion.toInteger
  rw [hpresent, if_neg Bool.false_ne_true]
  dsimp only
  cases int64OfText? (trim s.toList) <;> rfl

/-- A number is coerced to the integer that it is, is out of range if it is
one beyond 64 bits, and is invalid if it is none.  A text that is not
blank is coerced to the integer of 64 bits that it is a text of, and is
invalid if there is none.  A number and the digits of its integer are
coerced alike. -/
theorem coerce_integer_exact (options : RuleOptions) :
    (∀ n : JsonNumber,
      (∀ k : ℤ, coerce options .integer (.number n) = .ok (some (.integer k)) ↔
        n.value = k ∧ IsInt64 k) ∧
      (coerce options .integer (.number n) =
          Attempt.refuse (.outOfRange (String.ofList n.write)) ↔
        ∃ k : ℤ, n.value = k ∧ ¬ IsInt64 k) ∧
      (coerce options .integer (.number n) =
          Attempt.refuse (.invalid .integer (String.ofList n.write)) ↔
        ¬ ∃ k : ℤ, n.value = k)) ∧
    (∀ s : String, isAllBlank s.toList = false →
      (∀ k : ℤ, coerce options .integer (.string s) = .ok (some (.integer k)) ↔
        IntegerText (trim s.toList) k ∧ IsInt64 k) ∧
      (coerce options .integer (.string s) = Attempt.refuse (.invalid .integer s) ↔
        ¬ ∃ k : ℤ, IntegerText (trim s.toList) k ∧ IsInt64 k)) ∧
    ∀ (n : JsonNumber) (k : ℤ), n.value = k → IsInt64 k →
      coerce options .integer (.number n) = coerce options .integer (.string (intText k)) := by
  refine ⟨fun n => ?_, fun s hs => ?_, fun n k h hk => ?_⟩
  · rw [coerce_integer_number]
    by_cases hwhole : ∃ k : ℤ, n.value = k
    · obtain ⟨k, hk⟩ := hwhole
      rw [Coercion.integerOfNumber_of_value hk, hk]
      by_cases hfits : IsInt64 k
      · simp [hfits, Except.map, Attempt.refuse]
      · simp [hfits, Except.map, Attempt.refuse]
    · rw [Coercion.integerOfNumber_of_fraction hwhole]
      simp [not_exists.mp hwhole, Except.map, Attempt.refuse]
  · rw [coerce_integer_string hs]
    simp only [← int64OfText?_eq_some_iff]
    cases int64OfText? (trim s.toList) with
    | none => simp [Attempt.ofOption, Except.map, Attempt.refuse]
    | some k => simp [Attempt.ofOption, Except.map, Attempt.refuse]
  · have htext : int64OfText? (trim (intText k).toList) = some k := by
      rw [trim_intText]
      exact int64OfText?_eq_some_iff.mpr ⟨integerText_ofInt k, hk⟩
    rw [coerce_integer_number, Coercion.integerOfNumber_of_value h, if_pos hk,
      coerce_integer_string (isAllBlank_intText k), htext]
    rfl

/-- The lower bound is in the range and the upper one is not, also where
they are given as doubles; a text may have a sign, zeros and blanks, but
no fraction. -/
theorem coerce_integer_exact_bounds :
    coerce {} .integer (.number (.double (Coercion.int64Bound true))) =
      .ok (some (.integer (-2 ^ 63))) ∧
    coerce {} .integer (.number (.double (Coercion.int64Bound false))) =
      Attempt.refuse (.outOfRange
        (String.ofList (JsonNumber.double (Coercion.int64Bound false)).write)) ∧
    coerce {} .integer (.string " +0042 ") = .ok (some (.integer 42)) ∧
    coerce {} .integer (.string "42.0") = Attempt.refuse (.invalid .integer "42.0") := by
  obtain ⟨hnumber, hstring, -⟩ := coerce_integer_exact {}
  have hsigned : IntegerText (trim " +0042 ".toList) 42 := intOfText?_eq_some_iff.mp (by decide)
  have hpoint : intOfText? (trim "42.0".toList) = none := by decide
  refine ⟨?_, ?_, ?_, ?_⟩
  · exact ((hnumber _).1 _).mpr ⟨Coercion.value_int64Bound true, by decide⟩
  · exact (hnumber _).2.1.mpr ⟨_, Coercion.value_int64Bound false, by decide⟩
  · exact ((hstring _ (by decide)).1 _).mpr ⟨hsigned, by decide⟩
  · refine (hstring _ (by decide)).2.mpr fun h => ?_
    obtain ⟨k, hk, -⟩ := h
    rw [← intOfText?_eq_some_iff, hpoint] at hk
    cases hk

end RecordSieve
