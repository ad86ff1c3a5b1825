/-
RecordSieve.Proofs.Calendar.OffsetCut — when reading a date breaks off.

There is one way: the text is a numeric date whose date and time are
good, and whose offset is a sign and digits without a colon that take
more than two bytes and have no end of two bytes (`CutsOffset`).  The
readers of moments and dates break off for exactly these texts.  They
hold a decimal digit that is not ASCII (`exists_wide_of_cutsOffset`).
-/
import RecordSieve.Calendar.Reader
import RecordSieve.Proofs.Calendar.NumericScan
import RecordSieve.Proofs.Outcome
import RecordSieve.Proofs.Text.Size

namespace RecordSieve.Calendar

open RecordSieve.Text RecordSieve.Decimal

/-! ## Offsets -/

/-- The digits take more than two bytes, and two bytes before their end
is the inside of a digit. -/
def CutInside (ds : List Char) : Prop :=
  2 < byteLength ds ∧ ∀ front back, front ++ back = ds → byteLength back ≠ 2

theorem OffsetForm.seconds?_eq_error_iff {offset : OffsetForm} {abort : Abort} :
    offset.seconds? = .error abort ↔ ∃ negative ds, offset = .plain negative ds ∧ CutInside ds := by
  cases offset with
  | utc => simp [seconds?]
  | colon negative hours minutes => simp [seconds?]
  | plain negative ds =>
    simp only [seconds?, OffsetForm.plain.injEq, CutInside, ← cutTwoBytes?_eq_none_iff]
    split
    · next hsmall => simp [Nat.not_lt.mpr hsmall]
    · next hlarge =>
      cases abort
      cases hcut : cutTwoBytes? ds with
      | none => exact iff_of_true rfl ⟨negative, ds, ⟨rfl, rfl⟩, Nat.lt_of_not_le hlarge, hcut⟩
      | some p =>
        refine iff_of_false (by simp) ?_
        rintro ⟨negative', ds', ⟨rfl, rfl⟩, -, hnone⟩
        rw [hcut] at hnone
        cases hnone

/-- Digits of one byte each are cut between two of them. -/
theorem not_oneByte_of_cutInside {ds : List Char} (h : CutInside ds) : ¬ OneByte ds := by
  intro hone
  obtain ⟨hlarge, hcut⟩ := h
  -- The last two digits are an end of two bytes.
  have hback : OneByte (ds.drop (ds.length - 2)) := fun d hd => hone d (List.mem_of_mem_drop hd)
  refine hcut _ _ (List.take_append_drop (ds.length - 2) ds) ?_
  rw [byteLength_of_oneByte hone] at hlarge
  rw [byteLength_of_oneByte hback, List.length_drop]
  omega

/-! ## Texts -/

/-- The text is a numeric date with a good date and a good time, whose
offset is cut inside a digit. -/
def CutsOffset (order : DateOrder) (cs : List Char) : Prop :=
  ∃ form date time negative ds, NumericForm.scan? cs = some form ∧ form.date? order = some date ∧
    form.clockTime? = some time ∧ form.time.bind TimeForm.offset = some (.plain negative ds) ∧
    CutInside ds

theorem NumericForm.moment?_eq_error_iff {form : NumericForm} {order : DateOrder} {abort : Abort} :
    form.moment? order = .error abort ↔ ∃ date time negative ds, form.date? order = some date ∧
      form.clockTime? = some time ∧ form.time.bind TimeForm.offset = some (.plain negative ds) ∧
      CutInside ds := by
  rw [moment?]
  cases hdate : form.date? order with
  | none => simp
  | some date =>
    cases htime : form.clockTime? with
    | none => simp
    | some time =>
      simp only [bind_eq_error_iff, offset?]
      cases hoffset : form.time.bind TimeForm.offset with
      | none => simp [pure, Except.pure]
      | some offset => simp [pure, Except.pure, OffsetForm.seconds?_eq_error_iff]

theorem readNumeric?_eq_error_iff {order : DateOrder} {cs : List Char} {abort : Abort} :
    readNumeric? order cs = .error abort ↔ CutsOffset order cs := by
  rw [readNumeric?, CutsOffset]
  cases hform : NumericForm.scan? cs with
  | none => simp
  | some form => simp [NumericForm.moment?_eq_error_iff]

theorem read?_eq_error_iff {locale : Locale} {text : String} {abort : Abort} :
    read? locale text = .error abort ↔ CutsOffset locale.dateOrder (trim text.toList) := by
  rw [read?, bind_eq_error_iff, readNumeric?_eq_error_iff]
  refine or_iff_left ?_
  rintro ⟨m, -, h⟩
  cases m <;> cases h

theorem readMoment_eq_aborted_iff {locale : Locale} {text : String} {abort : Abort} :
    readMoment locale text = .error (.aborted abort) ↔
      CutsOffset locale.dateOrder (trim text.toList) :=
  (bind_ofOutcome_eq_aborted_iff fun _ => ofOption_ne_aborted).trans read?_eq_error_iff

theorem readDate_eq_aborted_iff {locale : Locale} {text : String} {abort : Abort} :
    readDate locale text = .error (.aborted abort) ↔
      CutsOffset locale.dateOrder (trim text.toList) :=
  (bind_ofOutcome_eq_aborted_iff fun _ => ofOption_ne_aborted).trans read?_eq_error_iff

theorem exists_wide_of_cutsOffset {order : DateOrder} {cs : List Char} (h : CutsOffset order cs) :
    ∃ c ∈ cs, isDecimalDigit c = true ∧ 1 < c.utf8Size := by
  obtain ⟨form, date, time, negative, ds, hform, -, -, hoffset, hcut⟩ := h
  obtain ⟨t, ht, ht'⟩ := Option.bind_eq_some_iff.mp hoffset
  have hds := (NumericForm.scan?_cut hform).offset t negative ds ht ht'
  obtain ⟨d, hd, hwide⟩ := exists_wide_of_not_oneByte (not_oneByte_of_cutInside hcut)
  exact ⟨d, (hds d hd).2, (hds d hd).1, hwide⟩

end RecordSieve.Calendar
