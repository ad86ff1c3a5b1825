/-
RecordSieve.Proofs.Value.Coercion — when coercion breaks off.

Only the readers of moments and dates can break off, and only on a
string: the text of a number takes one byte a character
(`oneByte_write`), and so does that of a truth value.
-/
import RecordSieve.Proofs.Calendar.OffsetCut
import RecordSieve.Proofs.Text.Blank
import RecordSieve.Proofs.Value.Figures
import RecordSieve.Value.Coercion

namespace RecordSieve

open RecordSieve.Text

/-! ## Texts of scalars -/

theorem JsonNumber.oneByte_write (n : JsonNumber) : OneByte n.write := by
  refine oneByte_figures.subset ?_
  cases n with
  | integer i h => exact Decimal.ofInt_subset i
  | double x => exact Decimal.Layout.write_subset _ x

theorem oneByte_boolText (b : Bool) : OneByte (if b then "true" else "false").toList := by
  refine oneByte_truthLetters.subset ?_
  cases b <;> decide

/-! ## Where coercion breaks off -/

theorem Calendar.not_cutsOffset_of_oneByte {order : DateOrder} {cs : List Char} (h : OneByte cs) :
    ¬ CutsOffset order (trim cs) := by
  intro hcut
  obtain ⟨c, hc, -, hwide⟩ := exists_wide_of_cutsOffset hcut
  rw [h c (trim_subset cs hc)] at hwide
  exact Nat.lt_irrefl 1 hwide

theorem Calendar.not_cutsOffset_of_isAllBlank {order : DateOrder} {cs : List Char}
    (h : isAllBlank cs = true) : ¬ CutsOffset order (trim cs) := by
  rw [trim_of_isAllBlank h]
  rintro ⟨form, date, time, negative, ds, hform, -⟩
  cases hform

namespace Coercion

/-- The value is a string that is read as a moment or a date, and its
offset is cut inside a digit. -/
def BreaksOff (options : RuleOptions) (kind : FieldType) (value : Json) : Prop :=
  (kind = .dateTime ∨ kind = .date) ∧
    ∃ s, value = .string s ∧ Calendar.CutsOffset options.locale.dateOrder (trim s.toList)

variable {options : RuleOptions} {kind : FieldType} {value : Json} {abort : Abort}

theorem scalarText_ne_aborted : scalarText kind value ≠ .error (.aborted abort) := by
  cases value <;> simp [scalarText, Attempt.refuse]

/-- A text whose offset is cut is that of a string. -/
theorem scalarText_cutsOffset_iff {order : DateOrder} :
    (∃ text, scalarText kind value = .ok text ∧ Calendar.CutsOffset order (trim text.toList)) ↔
      ∃ s, value = .string s ∧ Calendar.CutsOffset order (trim s.toList) := by
  constructor
  · rintro ⟨text, htext, hcut⟩
    cases value with
    | string s =>
      cases htext
      exact ⟨text, rfl, hcut⟩
    | number n =>
      cases htext
      rw [String.toList_ofList] at hcut
      exact absurd hcut (Calendar.not_cutsOffset_of_oneByte n.oneByte_write)
    | bool b =>
      cases htext
      exact absurd hcut (Calendar.not_cutsOffset_of_oneByte (oneByte_boolText b))
    | null => cases htext
    | array items => cases htext
    | object members => cases htext
  · rintro ⟨s, rfl, hcut⟩
    exact ⟨s, rfl, hcut⟩

theorem toInteger_ne_aborted : toInteger value ≠ .error (.aborted abort) := by
  cases value with
  | number n =>
    unfold toInteger integerOfNumber
    dsimp only
    split
    · simp
    · split
      · simp
      · split <;> simp [Attempt.refuse]
  | string s => exact ofOption_ne_aborted
  | _ => simp [toInteger, Attempt.refuse]

theorem toDouble_ne_aborted : toDouble value ≠ .error (.aborted abort) := by
  cases value with
  | string s => exact ofOption_ne_aborted
  | _ => simp [toDouble, Attempt.refuse]

theorem toBoolean_ne_aborted : toBoolean value ≠ .error (.aborted abort) := by
  cases value with
  | string s =>
    rw [toBoolean]
    split
    · simp
    · split <;> simp [Attempt.refuse]
  | _ => simp [toBoolean, Attempt.refuse]

theorem toDuration_ne_aborted {locale : Locale} {text : String} :
    toDuration locale text ≠ .error (.aborted abort) := by
  rw [toDuration]
  split <;> simp [Attempt.refuse]

theorem present_eq_aborted_iff :
    present options kind value = .error (.aborted abort) ↔ BreaksOff options kind value := by
  rw [BreaksOff, ← @scalarText_cutsOffset_iff kind]
  cases kind with
  | dateTime =>
    simp [present, bind_eq_error_iff, scalarText_ne_aborted, Calendar.readMoment_eq_aborted_iff,
      pure, Except.pure]
  | date =>
    simp [present, bind_eq_error_iff, scalarText_ne_aborted, Calendar.readDate_eq_aborted_iff,
      pure, Except.pure]
  | string => simp [present, bind_eq_error_iff, scalarText_ne_aborted, pure, Except.pure]
  | integer => simp [present, bind_eq_error_iff, toInteger_ne_aborted, pure, Except.pure]
  | double => simp [present, bind_eq_error_iff, toDouble_ne_aborted, pure, Except.pure]
  | boolean => simp [present, bind_eq_error_iff, toBoolean_ne_aborted, pure, Except.pure]
  | duration =>
    simp [present, bind_eq_error_iff, scalarText_ne_aborted, toDuration_ne_aborted, pure,
      Except.pure]

theorem not_breaksOff_of_isAbsent (h : isAbsent kind value = true) :
    ¬ BreaksOff options kind value := by
  rintro ⟨-, s, rfl, hcut⟩
  rw [isAbsent, Bool.and_eq_true] at h
  exact Calendar.not_cutsOffset_of_isAllBlank h.2 hcut

end Coercion

variable {options : RuleOptions} {kind : FieldType} {value : Json} {abort : Abort}

theorem coerce_eq_aborted_iff :
    coerce options kind value = .error (.aborted abort) ↔
      Coercion.BreaksOff options kind value := by
  rw [coerce]
  split
  · next habsent => exact iff_of_false (by simp) (Coercion.not_breaksOff_of_isAbsent habsent)
  · rw [bind_eq_error_iff, Coercion.present_eq_aborted_iff]
    simp [pure, Except.pure]

theorem coerceData_eq_error_iff :
    coerceData options kind value = .error abort ↔ Coercion.BreaksOff options kind value := by
  rw [coerceData, orAbsent_eq_error_iff, coerce_eq_aborted_iff]

instance (options : RuleOptions) (kind : FieldType) (value : Json) :
    Decidable (Coercion.BreaksOff options kind value) :=
  decidable_of_iff ((coerceData options kind value).toBool = false) <| by
    rw [← @coerceData_eq_error_iff options kind value .offsetCut]
    rcases coerceData options kind value with ⟨⟨⟩⟩ | v <;> simp [Except.toBool]

/-- A value on which coercion breaks off is a string with a decimal digit
beyond ASCII. -/
theorem Coercion.exists_wide_of_breaksOff (h : BreaksOff options kind value) :
    ∃ s, value = .string s ∧ ∃ c ∈ s.toList, isDecimalDigit c = true ∧ 1 < c.utf8Size := by
  obtain ⟨-, s, rfl, hcut⟩ := h
  obtain ⟨c, hc, hdigit, hwide⟩ := Calendar.exists_wide_of_cutsOffset hcut
  exact ⟨s, rfl, c, trim_subset _ hc, hdigit, hwide⟩

end RecordSieve
