/-
RecordSieve.Proofs.Value.Default — being a default, and being equal to it.

A value is a default without regard to options, and is equal to another
one under them.  The two come to one for the default of every type but
String: there equality under flags that ignore accents sees no marks, so
that a string of marks only is equal to the empty string, and is not
empty (`FieldValue.FoldsAway`).

The text of a default is read as the default, in every locale, so each
type has data and operands that denote it.
-/
import RecordSieve.Proofs.Calendar.Rereading
import RecordSieve.Proofs.Text.LetterCase
import RecordSieve.Proofs.Value.Order
import RecordSieve.Value.Coercion

namespace RecordSieve

open Text

/-! ## Equality with the empty string -/

theorem Text.lowercase_ne_nil (c : Char) : lowercase c ≠ [] := by
  rcases lowercase_cases c with rfl | ⟨run, -, -, hlower⟩ | hself
  · decide +kernel
  · rw [hlower]
    exact List.cons_ne_nil _ _
  · rw [hself]
    exact List.cons_ne_nil _ _

theorem Text.lowercaseAll_eq_nil_iff {cs : List Char} : lowercaseAll cs = [] ↔ cs = [] := by
  cases cs with
  | nil => simp [lowercaseAll]
  | cons c cs => simp [lowercaseAll, lowercase_ne_nil]

namespace Collation

variable {flags : CompareFlags} {a : String}

/-- A string that is not empty has nothing that counts under the flags:
it is all marks, and they ignore marks. -/
def FoldsAway (flags : CompareFlags) (a : String) : Prop :=
  flags.ignoreAccents = true ∧ a ≠ "" ∧ ∀ c ∈ decompose a.toList, isMark c = true

instance (flags : CompareFlags) (a : String) : Decidable (FoldsAway flags a) :=
  have : Decidable (∀ c ∈ decompose a.toList, isMark c = true) := List.decidableBAll _ _
  inferInstanceAs (Decidable (_ ∧ _ ∧ _))

theorem stripMarks_eq_nil_iff {cs : List Char} : stripMarks cs = [] ↔ ∀ c ∈ cs, isMark c = true := by
  simp [stripMarks, List.filter_eq_nil_iff]

theorem accentKey_eq_nil_iff : accentKey a = [] ↔ a = "" := by
  rw [accentKey, lowercaseAll_eq_nil_iff, decompose_eq_nil_iff, String.toList_eq_nil_iff]

theorem letterKey_eq_nil_iff :
    letterKey a = [] ↔ ∀ c ∈ decompose a.toList, isMark c = true := by
  rw [letterKey, lowercaseAll_eq_nil_iff, stripMarks_eq_nil_iff]

/-- Besides the empty string, those strings are equal to it of which nothing counts. -/
theorem equal_empty_iff : equal flags a "" = true ↔ a = "" ∨ FoldsAway flags a := by
  constructor
  · intro h
    obtain ⟨hletters, haccents, -, -⟩ := equal_iff.mp h
    have hmarks : ∀ c ∈ decompose a.toList, isMark c = true := letterKey_eq_nil_iff.mp hletters
    by_cases hempty : a = ""
    · exact .inl hempty
    · refine .inr ⟨?_, hempty, hmarks⟩
      by_contra hcount
      exact hempty (accentKey_eq_nil_iff.mp (haccents (Bool.eq_false_iff.mpr hcount)))
  · rintro (rfl | ⟨hignore, -, hmarks⟩)
    · exact equal_refl flags ""
    · have hcase : caseKey flags a = [] := by
        rw [caseKey, hignore, if_pos rfl, stripMarks_eq_nil_iff.mpr hmarks, List.map_nil]
      refine equal_iff.mpr ⟨letterKey_eq_nil_iff.mpr hmarks, ?_, ?_, ?_⟩
      · intro hcount
        rw [hignore] at hcount
        cases hcount
      · intro _
        rw [hcase, caseKey]
        simp [stripMarks]
      · rintro rfl
        cases hignore

end Collation

/-! ## Equality with a default -/

namespace FieldValue

variable {flags : CompareFlags} {v w c : FieldValue}

/-- The value is a string of which nothing counts under the flags. -/
def FoldsAway (flags : CompareFlags) (v : FieldValue) : Prop :=
  ∃ s, v = string s ∧ Collation.FoldsAway flags s

/-- Only strings look different to flags. -/
theorem same_eq_equal (h : v.kind ≠ .string) : same v w = equal flags v w := by
  cases v with
  | string a => exact absurd rfl h
  | integer a =>
    cases w with
    | integer b => rw [Bool.eq_iff_iff]; simp [same, equal, order?]
    | _ => rfl
  | double a =>
    cases w with
    | double b =>
      rw [Bool.eq_iff_iff]
      simp [same, equal, order?, Decimal.Binary64.order_eq_eq_iff,
        Decimal.Binary64.equal_eq_true_iff]
    | _ => rfl
  | boolean a =>
    cases w with
    | boolean b => rw [Bool.eq_iff_iff]; simp [same, equal, order?]
    | _ => rfl
  | dateTime a =>
    cases w with
    | dateTime b => rw [Bool.eq_iff_iff]; simp [same, equal, order?, Moment.order_eq_eq_iff]
    | _ => rfl
  | date a =>
    cases w with
    | date b => rw [Bool.eq_iff_iff]; simp [same, equal, order?, Date.order_eq_eq_iff]
    | _ => rfl
  | duration a =>
    cases w with
    | duration b => rw [Bool.eq_iff_iff]; simp [same, equal, order?, Duration.order_eq_eq_iff]
    | _ => rfl

/-- What is equal to a default is the default, or a string of which
nothing counts. -/
theorem equal_default_iff :
    equal flags v (default v.kind) = true ↔ v.isDefault = true ∨ v.FoldsAway flags := by
  by_cases hkind : v.kind = .string
  · cases v with
    | string s =>
      have hequal : equal flags (string s) (string "") = Collation.equal flags s "" := by
        simp [equal, order?, Collation.equal]
      have hdefault : (string s).isDefault = true ↔ s = "" := beq_iff_eq
      have haway : FoldsAway flags (string s) ↔ Collation.FoldsAway flags s := by
        simp [FoldsAway]
      rw [hdefault, haway, ← Collation.equal_empty_iff, ← hequal]
      rfl
    | _ => cases hkind
  · have haway : ¬ v.FoldsAway flags := by
      rintro ⟨s, rfl, -⟩
      exact hkind rfl
    rw [isDefault, same_eq_equal hkind, or_iff_left haway]

theorem isDefault_eq_false_of_foldsAway (h : v.FoldsAway flags) : v.isDefault = false := by
  obtain ⟨s, rfl, -, hempty, -⟩ := h
  exact beq_eq_false_iff_ne.mpr hempty

/-- Equal values may be put for each other on the left of a comparison. -/
theorem order?_congr_left (h : equal flags v w = true) : order? flags v c = order? flags w c := by
  rw [equal_eq_true_iff] at h
  cases v with
  | string a | integer a | double a | boolean a | dateTime a | date a | duration a =>
    -- Values of two types are never equal; those of one type compare by one order.
    cases w <;> first
      | cases h
      | cases c <;> first
        | rfl
        | exact congrArg some (Std.TransCmp.congr_left (Option.some.inj h))

end FieldValue

/-! ## Reading a default -/

/-- What the defaults are written as. -/
theorem FieldValue.write_default (kind : FieldType) : (default kind).write = match kind with
    | .string => ""
    | .integer | .double => "0"
    | .boolean => "false"
    | .dateTime => "0001-01-01T00:00:00+00:00"
    | .date => "0001-01-01"
    | .duration => "P0D" := by
  cases kind <;> decide +kernel

theorem Moment.expressible_first : Moment.first.Expressible := ⟨rfl, Calendar.expressible_midnight⟩

theorem coerce_of_present {options : RuleOptions} {kind : FieldType} {value : Json} {v : FieldValue}
    (habsent : Coercion.isAbsent kind value = false)
    (hpresent : Coercion.present options kind value = .ok v) :
    coerce options kind value = .ok (some v) := by
  rw [coerce, habsent, hpresent]
  rfl

/-- The text of a default denotes the default, whatever the options. -/
theorem coerce_write_default (options : RuleOptions) (kind : FieldType) :
    coerce options kind (.string (FieldValue.default kind).write) =
      .ok (some (FieldValue.default kind)) := by
  cases kind with
  | string | integer | double | boolean | duration =>
    rw [FieldValue.write_default]
    rfl
  | dateTime =>
    refine coerce_of_present (by rw [FieldValue.write_default]; rfl) ?_
    have hread : Calendar.readMoment options.locale (String.ofList Moment.first.write) =
        .ok .first := by
      rw [Calendar.readMoment, Calendar.read?_write options.locale Moment.expressible_first]
      rfl
    exact congrArg (Except.map FieldValue.dateTime) hread
  | date =>
    refine coerce_of_present (by rw [FieldValue.write_default]; rfl) ?_
    have hread : Calendar.readDate options.locale (String.ofList Date.first.write) = .ok .first :=
      Calendar.readDate_write options.locale ⟨by decide, by decide⟩
    exact congrArg (Except.map FieldValue.date) hread

end RecordSieve
