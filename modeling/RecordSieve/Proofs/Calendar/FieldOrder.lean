/-
RecordSieve.Proofs.Calendar.FieldOrder — in which order a numeric date is
read.

A numeric date says of itself which date it is in a given order of its
fields (`Reads`): year, month and day if its first number has four
digits, and in the given order otherwise, where a year of one or two
digits lies between 1950 and 2049.  The numeric form is read so.  If it
is refused, for its date, time or offset, another form may still take the
text, and that one has the year first and takes it as it stands.  For a
first number of four digits this is the same date.  With fewer digits it
is another, and the text is misread (`Misread`): nothing else than a date
with dashes and a capital T after it can be.
-/
import RecordSieve.Proofs.Calendar.Fallback
import RecordSieve.Proofs.Outcome
import RecordSieve.Proofs.Text.Blank

namespace RecordSieve.Calendar

open RecordSieve.Text RecordSieve.Decimal

/-! ## The date that a numeric date stands for -/

/-- The year that digits stand for: one or two are the last ones of a
year from 1950 to 2049, and more are the year itself. -/
def IsYear (ds : List Char) (year : Int) : Prop :=
  ∃ n : Nat, natOfDigits? ds = some n ∧
    if ds.length ≤ 2 then 1950 ≤ year ∧ year ≤ 2049 ∧ year % 100 = n else year = n

theorem yearField?_eq_some_iff {ds : List Char} {year : Int} :
    yearField? ds = some year ↔ IsYear ds year := by
  rw [yearField?, Option.map_eq_some_iff]
  refine exists_congr fun n => and_congr_right fun hn => ?_
  rw [expandYear]
  split
  · next hshort =>
    have hlt : n < 100 := Nat.lt_of_lt_of_le (natOfDigits?_lt hn) (tenTo_le_tenTo hshort)
    split <;> omega
  · exact eq_comm

namespace NumericForm

/-- The date that the form stands for in an order of its fields. -/
def Reads (form : NumericForm) (order : DateOrder) (d : Date) : Prop :=
  if form.a.length = 4 then form.Writes d
  else
    match order with
    | .monthDayYear =>
      natOfDigits? form.a = some d.month ∧ natOfDigits? form.b = some d.day ∧ IsYear form.c d.year
    | .dayMonthYear =>
      natOfDigits? form.a = some d.day ∧ natOfDigits? form.b = some d.month ∧ IsYear form.c d.year
    | .yearMonthDay =>
      IsYear form.a d.year ∧ natOfDigits? form.b = some d.month ∧ natOfDigits? form.c = some d.day

theorem writes_iff {form : NumericForm} {d : Date} : form.Writes d ↔
    (∃ n : Nat, natOfDigits? form.a = some n ∧ d.year = n) ∧ natOfDigits? form.b = some d.month ∧
      natOfDigits? form.c = some d.day :=
  ⟨fun h => ⟨h.year, h.month, h.day⟩, fun h => ⟨h.1, h.2.1, h.2.2⟩⟩

/-- The numeric form has exactly the date that it stands for. -/
theorem date?_eq_some_iff {form : NumericForm} {order : DateOrder} {d : Date} :
    form.date? order = some d ↔ form.Reads order d := by
  unfold date? Reads
  split
  · simp only [Option.bind_eq_bind, Option.bind_eq_some_iff, Date.ofFields?_eq_some_iff, writes_iff]
    constructor
    · rintro ⟨b, hb, a, ha, c, hc, hyear, rfl, rfl⟩
      exact ⟨⟨a, ha, hyear⟩, hb, hc⟩
    · rintro ⟨⟨a, ha, hyear⟩, hb, hc⟩
      exact ⟨_, hb, a, ha, _, hc, hyear, rfl, rfl⟩
  · cases order <;>
      simp only [Option.bind_eq_bind, Option.bind_eq_some_iff, Date.ofFields?_eq_some_iff,
        yearField?_eq_some_iff]
    case monthDayYear | dayMonthYear =>
      constructor
      · rintro ⟨b, hb, year, hyear, a, ha, rfl, rfl, rfl⟩
        exact ⟨ha, hb, hyear⟩
      · rintro ⟨ha, hb, hyear⟩
        exact ⟨_, hb, _, hyear, _, ha, rfl, rfl, rfl⟩
    case yearMonthDay =>
      constructor
      · rintro ⟨b, hb, year, hyear, c, hc, rfl, rfl, rfl⟩
        exact ⟨hyear, hb, hc⟩
      · rintro ⟨hyear, hb, hc⟩
        exact ⟨_, hb, _, hyear, _, hc, rfl, rfl, rfl⟩

end NumericForm

variable {locale : Locale} {order : DateOrder} {text : String} {cs : List Char}
  {form : NumericForm}

/-- What is read in the numeric form is the date that it stands for. -/
theorem reads_of_readNumeric? {m : Moment} (hform : NumericForm.scan? cs = some form)
    (hm : readNumeric? order cs = .ok (some m)) : form.Reads order m.date := by
  rw [readNumeric?, hform] at hm
  exact NumericForm.date?_eq_some_iff.mp (NumericForm.moment?_eq_ok_iff.mp hm).1

/-- A form that stands for no date is passed on. -/
theorem readNumeric?_of_not_reads (hform : NumericForm.scan? cs = some form)
    (hreads : ∀ d, ¬ form.Reads order d) : readNumeric? order cs = .ok none := by
  have hdate : form.date? order = none := Option.eq_none_iff_forall_ne_some.mpr fun d hd =>
    hreads d (NumericForm.date?_eq_some_iff.mp hd)
  rw [readNumeric?, hform]
  dsimp only
  rw [NumericForm.moment?, hdate]

/-! ## What is read -/

/-- The form is read with the year first, although its first number has
fewer than four digits, and the year is taken as it stands. -/
structure NumericForm.Misread (form : NumericForm) (cs : List Char) (d : Date) : Prop where
  few : form.a.length < 4
  text : ∃ after, cs = form.a ++ '-' :: (form.b ++ '-' :: (form.c ++ 'T' :: after))
  writes : form.Writes d

/-- Another form gives the date that the numeric form stands for, or misreads it. -/
theorem reads_or_misread_of_other {m : Moment}
    (hform : NumericForm.scan? (trim cs) = some form)
    (hm : (readMonthName? (trim cs)).or (readFixed? (trim cs)) = some m) :
    form.Reads order m.date ∨ form.Misread (trim cs) m.date := by
  obtain ⟨sep₁, sep₂, rest, hlaid⟩ := NumericForm.scan?_laidOut hform
  rw [trimLeft_trim] at hlaid
  rw [hlaid.readMonthName?_eq_none, Option.none_or] at hm
  obtain ⟨hwrites, hshape⟩ := hlaid.of_readFixed? hm
  by_cases hfour : form.a.length = 4
  · left
    unfold NumericForm.Reads
    rwa [if_pos hfour]
  · right
    have hmost := (NumericForm.scan?_cut hform).a
    rcases hshape with hfew | ⟨rfl, rfl, after, rfl⟩
    · omega
    · exact ⟨by omega, ⟨after, hlaid.text⟩, hwrites⟩

theorem readDate_eq_ok_iff {d : Date} :
    readDate locale text = .ok d ↔ ∃ m, readMoment locale text = .ok m ∧ m.date = d := by
  rw [readDate, readMoment]
  cases read? locale text with
  | error abort => simp [Attempt.ofOutcome, bind, Except.bind]
  | ok m =>
    cases m <;> simp [Attempt.ofOutcome, Attempt.ofOption, Attempt.refuse, bind, Except.bind]

theorem readMoment_eq_ok_cases {m : Moment} (h : readMoment locale text = .ok m) :
    readNumeric? locale.dateOrder (trim text.toList) = .ok (some m) ∨
      readNumeric? locale.dateOrder (trim text.toList) = .ok none ∧
      (readMonthName? (trim text.toList)).or (readFixed? (trim text.toList)) = some m := by
  obtain ⟨numeric, hnumeric, hrest⟩ := bind_eq_ok_iff.mp (readMoment_eq_ok_iff.mp h)
  cases numeric with
  | some m' =>
    cases hrest
    exact .inl hnumeric
  | none => exact .inr ⟨hnumeric, Except.ok.inj hrest⟩

/-- A text in the numeric form gives a moment on the date that the form
stands for in the locale's field order, or is misread; `readDate` gives
the same date.  If the form stands for no date, and is not misread, the
text is refused. -/
theorem numericDate_fieldOrder (locale : Locale) (text : String) (form : NumericForm)
    (hform : NumericForm.scan? (trim text.toList) = some form) :
    (∀ m, readMoment locale text = .ok m → form.Reads locale.dateOrder m.date ∨
      readNumeric? locale.dateOrder (trim text.toList) = .ok none ∧
        form.Misread (trim text.toList) m.date) ∧
    (∀ d, readDate locale text = .ok d ↔ ∃ m, readMoment locale text = .ok m ∧ m.date = d) ∧
    ((∀ d, ¬ form.Reads locale.dateOrder d) → (∀ d, ¬ form.Misread (trim text.toList) d) →
      readMoment locale text = Attempt.refuse (.invalid .dateTime text) ∧
        readDate locale text = Attempt.refuse (.invalid .date text)) := by
  refine ⟨fun m hm => ?_, fun d => readDate_eq_ok_iff, fun hreads hmisread => ?_⟩
  · rcases readMoment_eq_ok_cases hm with hnumeric | ⟨hnumeric, hother⟩
    · exact .inl (reads_of_readNumeric? hform hnumeric)
    · exact (reads_or_misread_of_other hform hother).imp_right fun h => ⟨hnumeric, h⟩
  · have hother : (readMonthName? (trim text.toList)).or (readFixed? (trim text.toList)) = none := by
      refine Option.eq_none_iff_forall_ne_some.mpr fun m hm => ?_
      have hcases : form.Reads locale.dateOrder m.date ∨ form.Misread (trim text.toList) m.date :=
        reads_or_misread_of_other hform hm
      exact hcases.elim (hreads m.date) (hmisread m.date)
    have hread : read? locale text = .ok none := by
      rw [read?, readNumeric?_of_not_reads hform hreads]
      exact congrArg Except.ok hother
    rw [readMoment, readDate, hread]
    exact ⟨rfl, rfl⟩

/-- There is no month 31, and so no date that the text can be read as
where the month comes first. -/
theorem numericDate_fieldOrder_refused :
    NumericForm.scan? (trim "31/12/2019".toList) =
      some ⟨['3', '1'], ['1', '2'], ['2', '0', '1', '9'], none⟩ ∧
    readMoment .invariant "31/12/2019" = Attempt.refuse (.invalid .dateTime "31/12/2019") ∧
    readDate .invariant "31/12/2019" = Attempt.refuse (.invalid .date "31/12/2019") := by
  have hform : NumericForm.scan? (trim "31/12/2019".toList) =
      some ⟨['3', '1'], ['1', '2'], ['2', '0', '1', '9'], none⟩ := by decide +kernel
  obtain ⟨-, -, hrefused⟩ := numericDate_fieldOrder .invariant _ _ hform
  refine ⟨hform, hrefused (fun d hd => ?_) fun d hd => ?_⟩
  · have hmonth : natOfDigits? ['3', '1'] = some d.month := hd.1
    have hthirtyOne : natOfDigits? ['3', '1'] = some 31 := by decide
    have hbounds := d.month_bounds
    rw [hthirtyOne, Option.some.injEq] at hmonth
    omega
  · obtain ⟨after, htext⟩ := hd.text
    have hslash : trim "31/12/2019".toList = "31/12/2019".toList := by decide +kernel
    rw [hslash] at htext
    exact absurd htext (by simp)

/-- There is no month 13, and 13 is the last part of a year since 1950;
but the text is read as a day of the year 13. -/
theorem not_reads_of_shortYear : ¬ ∀ (locale : Locale) (text : String) (form : NumericForm),
    NumericForm.scan? (trim text.toList) = some form →
      ∀ m, readMoment locale text = .ok m → form.Reads locale.dateOrder m.date := by
  intro h
  have hform : NumericForm.scan? (trim "13-02-03T10:00:00".toList) =
      some ⟨['1', '3'], ['0', '2'], ['0', '3'],
        some ⟨['1', '0'], ['0', '0'], some ['0', '0'], none, none, none⟩⟩ := by decide +kernel
  have hread : (readMoment .invariant "13-02-03T10:00:00").toOption.map (·.date) =
      some ⟨13, 2, 3, by decide, by decide⟩ := by decide +kernel
  obtain ⟨m, hm, hdate⟩ := Option.map_eq_some_iff.mp hread
  have hreads := h .invariant "13-02-03T10:00:00" _ hform m (toOption_eq_some_iff.mp hm)
  have hmonth : natOfDigits? ['1', '3'] = some m.date.month := hreads.1
  rw [hdate] at hmonth
  exact absurd hmonth (by decide)

end RecordSieve.Calendar
