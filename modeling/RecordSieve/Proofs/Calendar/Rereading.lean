/-
RecordSieve.Proofs.Calendar.Rereading — a written moment or date is read
back as what it was, in every locale.

The locale matters to numeric dates only, and a year of four digits comes
first in all of them.  So a written moment of such a year is read in the
numeric form, or passed on by it when it has a leap second or an offset
of more than 14 hours, and is then read as a timestamp; a moment of any
other year starts with a sign, which only the template with an offset
takes.  No form that is tried before gives another moment
(`read?_write`), and the moments that reading gives are those that their
text tells apart (`expressible_of_read?`).
-/
import RecordSieve.Proofs.Calendar.DayCount
import RecordSieve.Proofs.Calendar.WrittenForms
import RecordSieve.Proofs.Value.Figures

namespace RecordSieve.Calendar

open RecordSieve.Text RecordSieve.Decimal

/-! ## Moments -/

theorem trimLeft_of_subset_figures {cs : List Char} (h : cs ⊆ figures) : trimLeft cs = cs := by
  have hblank : figures.all (fun c => isBlank c == false) = true := by decide +kernel
  cases cs with
  | nil => rfl
  | cons c cs =>
    have hc : c ∈ figures := h List.mem_cons_self
    exact trimLeft_cons cs (beq_iff_eq.mp (List.all_eq_true.mp hblank c hc))

theorem trim_of_subset_figures {cs : List Char} (h : cs ⊆ figures) : trim cs = cs := by
  have hreverse : cs.reverse ⊆ figures := fun c hc => h (List.mem_reverse.mp hc)
  rw [trim, trimLeft_of_subset_figures h, trimRight]
  exact (congrArg List.reverse (trimLeft_of_subset_figures hreverse)).trans cs.reverse_reverse

/-- The forms that are the same in every locale give a written moment back. -/
theorem readFixed?_write {m : Moment} (hm : m.Expressible) : readFixed? m.write = some m := by
  rw [readFixed?]
  by_cases hyear : FourDigits m.date.year
  · rw [readTimestamp?_write hm hyear]
    rfl
  · rw [readTimestamp?_of_endsRun (endsRun_write hyear), readTemplate?_write hm hyear]
    rfl

/-- The numeric form does not give another moment, in any order. -/
theorem readNumeric?_write_cases {m : Moment} (order : DateOrder) (hm : m.Expressible) :
    readNumeric? order m.write = .ok (some m) ∨ readNumeric? order m.write = .ok none := by
  by_cases hyear : FourDigits m.date.year
  · rw [readNumeric?_write order hm hyear]
    split
    · exact .inl rfl
    · exact .inr rfl
  · right
    refine readNumeric?_of_endsRun ?_
    rw [trimLeft_of_subset_figures m.write_subset]
    exact endsRun_write hyear

/-- A written moment is read back, whatever the locale. -/
theorem read?_write {m : Moment} (locale : Locale) (hm : m.Expressible) :
    read? locale (String.ofList m.write) = .ok (some m) := by
  rw [read?, String.toList_ofList, trim_of_subset_figures m.write_subset]
  rcases readNumeric?_write_cases locale.dateOrder hm with hnumeric | hnumeric
  · rw [hnumeric]
    rfl
  · rw [hnumeric, readMonthName?_write, readFixed?_write hm]
    rfl

/-! ## Dates -/

/-- The start of a day of a year of four digits is a moment. -/
theorem exists_midnight {d : Date} (hyear : FourDigits d.year) :
    ∃ m, Moment.ofLocal? d .midnight 0 = some m ∧ m.date = d := by
  have hlocal : ∃ m, Moment.ofLocal? d .midnight 0 = some m :=
    Moment.exists_ofLocal? .midnight hyear (by decide) (by decide)
  obtain ⟨m, hm⟩ := hlocal
  exact ⟨m, hm, (Moment.ofLocal?_eq_some_iff.mp hm).1⟩

/-- A written date of a year of four digits is read back, whatever the
locale. -/
theorem readDate_write {d : Date} (locale : Locale) (hyear : FourDigits d.year) :
    readDate locale (String.ofList d.write) = .ok d := by
  obtain ⟨m, hm, hdate⟩ := exists_midnight hyear
  have hscan := scan?_date hyear endsRun_nil
  rw [List.append_nil, if_pos (show isAllBlank [] = true from rfl)] at hscan
  have hnumeric : readNumeric? locale.dateOrder d.write = .ok (some m) := by
    rw [readNumeric?, hscan]
    dsimp only
    rw [NumericForm.moment?, date?_numericForm locale.dateOrder hyear]
    exact congrArg Except.ok hm
  rw [readDate, read?, String.toList_ofList, trim_of_subset_figures d.write_subset, hnumeric]
  exact congrArg Except.ok hdate

/-- Writing a moment that was read, or a date of a year from 0 to 9999,
and reading the text in any other locale gives the same again: of a
moment the local date and time, the nanoseconds of its second, leap
seconds among them, and the offset. -/
theorem reread_written (text : String) (locale locale' : Locale) :
    (∀ m, readMoment locale text = .ok m →
      readMoment locale' (FieldValue.dateTime m).write = .ok m) ∧
    (∀ d, readDate locale text = .ok d → 0 ≤ d.year → d.year ≤ 9999 →
      readDate locale' (FieldValue.date d).write = .ok d) := by
  constructor
  · intro m hm
    rw [FieldValue.write, readMoment, read?_write locale' (expressible_of_readMoment hm)]
    rfl
  · intro d _ hlow hhigh
    exact readDate_write locale' ⟨hlow, hhigh⟩

/-- The leap second at the end of the year 12016, at 17 hours 30 minutes
west of UTC. -/
def leapMoment : Moment :=
  ⟨⟨12016, 12, 31, by decide, by decide⟩, ⟨23, 59, 59, 1250000000, by decide⟩, -63000, by decide,
    by decide⟩

def leapDay : Date := ⟨2000, 2, 29, by decide, by decide⟩

/-- A leap second of a year beyond four digits, with an offset that no
numeric date has, and a day that is written with the day first. -/
theorem reread_written_leap :
    (readMoment (.ofTag "de-DE") "+12016-12-31T23:59:60.25-1730" = .ok leapMoment ∧
      readMoment .invariant (FieldValue.dateTime leapMoment).write = .ok leapMoment) ∧
    (readDate (.ofTag "de-DE") "29.2.00" = .ok leapDay ∧
      readDate (.ofTag "en-US") (FieldValue.date leapDay).write = .ok leapDay) := by
  have hmoment : readMoment (.ofTag "de-DE") "+12016-12-31T23:59:60.25-1730" = .ok leapMoment := by
    rfl
  have hdate : readDate (.ofTag "de-DE") "29.2.00" = .ok leapDay := by
    rfl
  exact ⟨⟨hmoment, (reread_written _ _ .invariant).1 leapMoment hmoment⟩,
    ⟨hdate, (reread_written _ _ (.ofTag "en-US")).2 leapDay hdate (by decide) (by decide)⟩⟩

end RecordSieve.Calendar
