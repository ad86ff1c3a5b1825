/-
RecordSieve.Proofs.Calendar.LocaleIndependence — texts that mean the same
date in every locale.

Of a locale, reading a moment or a date uses the order of the fields of a
numeric date, and that for one decision only: what three numbers stand
for, of which the first has fewer than four digits.  A first number of
another script has no value in any order.  So a text has to start with
one to three ASCII digits and a separator to be read differently
(`StartsShort`); all others are read alike (`ReadAlike`) in all locales.
Those are the texts with four digits in front, and what the forms with
the month's name and of the Internet accept.
-/
import RecordSieve.Proofs.Calendar.FieldOrder

namespace RecordSieve.Calendar

open RecordSieve.Text RecordSieve.Decimal

/-- The text starts with a number of one to three digits and a separator
after it. -/
def StartsShort (cs : List Char) : Prop :=
  ∃ ds sep rest, cs = ds ++ sep :: rest ∧ (1 ≤ ds.length ∧ ds.length ≤ 3) ∧
    (∀ d ∈ ds, isAsciiDigit d = true) ∧ isDateSeparator sep = true

/-- The text is read alike in two locales, as a moment and as a date: as
the same one, or refused alike. -/
def ReadAlike (l l' : Locale) (text : String) : Prop :=
  readMoment l text = readMoment l' text ∧ readDate l text = readDate l' text

section

variable {order order' : DateOrder} {form : NumericForm} {cs : List Char} {text : String}
  {l l' : Locale} {m : Moment}

/-! ## The numeric form -/

theorem NumericForm.Reads.exists_first {d : Date} (h : form.Reads order d) :
    ∃ n, natOfDigits? form.a = some n := by
  unfold Reads at h
  split at h
  · obtain ⟨n, hn, -⟩ := h.year
    exact ⟨n, hn⟩
  · cases order with
    | monthDayYear | dayMonthYear => exact ⟨_, h.1⟩
    | yearMonthDay =>
      obtain ⟨n, hn, -⟩ := h.1
      exact ⟨n, hn⟩

/-- The order decides nothing for a first number of four digits, or of no value. -/
theorem NumericForm.moment?_congr (h : form.a.length = 4 ∨ natOfDigits? form.a = none)
    (order order' : DateOrder) : form.moment? order = form.moment? order' := by
  have hdate : form.date? order = form.date? order' := by
    refine Option.ext fun d => ?_
    rw [date?_eq_some_iff, date?_eq_some_iff]
    rcases h with hfour | hnone
    · unfold Reads
      rw [if_pos hfour, if_pos hfour]
    · have hnot (order : DateOrder) : ¬ form.Reads order d := by
        intro hreads
        obtain ⟨n, hn⟩ := hreads.exists_first
        rw [hnone] at hn
        cases hn
      exact iff_of_false (hnot order) (hnot order')
  rw [moment?, moment?, hdate]

/-! ## Texts -/

theorem readAlike_of_readNumeric? (h : readNumeric? l.dateOrder (trim text.toList) =
    readNumeric? l'.dateOrder (trim text.toList)) : ReadAlike l l' text := by
  have hread : read? l text = read? l' text := by
    unfold read?
    dsimp only
    rw [h]
  exact ⟨by rw [readMoment, readMoment, hread], by rw [readDate, readDate, hread]⟩

/-- Only a numeric date can be read differently, and only by its first number. -/
theorem readAlike_of_scan? (h : ∀ form, NumericForm.scan? (trim text.toList) = some form →
    form.a.length = 4 ∨ natOfDigits? form.a = none) (l l' : Locale) : ReadAlike l l' text := by
  refine readAlike_of_readNumeric? ?_
  rw [readNumeric?, readNumeric?]
  cases hform : NumericForm.scan? (trim text.toList) with
  | none => rfl
  | some form => exact NumericForm.moment?_congr (h form hform) _ _

theorem startsShort_of_laidOut {sep₁ sep₂ : Char} {rest : List Char} {n : Nat}
    (h : form.LaidOut sep₁ sep₂ rest cs) (hn : natOfDigits? form.a = some n)
    (hlength : form.a.length ≤ 3) : StartsShort cs :=
  ⟨form.a, sep₁, _, h.text, ⟨List.length_pos_iff.mpr h.a.ne_nil, hlength⟩,
    isAsciiDigit_of_number hn, h.isSeparator₁⟩

/-- Four digits in front are more than a short number. -/
theorem not_startsShort_of_fourDigits {ds rest : List Char} (hlength : ds.length = 4)
    (hds : ∀ d ∈ ds, isAsciiDigit d = true) : ¬ StartsShort (ds ++ rest) := by
  rintro ⟨short, sep, after, htext, ⟨-, hshort⟩, -, hsep⟩
  have hmem : sep ∈ ds := by
    have hget : (ds ++ rest)[short.length]? = some sep := by simp [htext]
    rw [List.getElem?_append_left (by omega)] at hget
    exact List.mem_of_getElem? hget
  have hdigits : ∀ c ∈ ['/', '.', '-'], isAsciiDigit c = false := by decide
  have hdigit := hds sep hmem
  rw [hdigits sep (by simpa [isDateSeparator, or_assoc] using hsep)] at hdigit
  cases hdigit

theorem readAlike_of_not_startsShort (h : ¬ StartsShort (trim text.toList)) (l l' : Locale) :
    ReadAlike l l' text := by
  refine readAlike_of_scan? (fun form hform => ?_) l l'
  obtain ⟨sep₁, sep₂, rest, hlaid⟩ := NumericForm.scan?_laidOut hform
  rw [trimLeft_trim] at hlaid
  have hmost := (NumericForm.scan?_cut hform).a
  by_cases hfour : form.a.length = 4
  · exact .inl hfour
  · refine .inr (Option.eq_none_iff_forall_ne_some.mpr fun n hn => h ?_)
    exact startsShort_of_laidOut hlaid hn (by omega)

/-- A date with the month's name is no numeric date, and so the first form that takes its text. -/
theorem readMoment_of_readMonthName? (hm : readMonthName? (trim text.toList) = some m)
    (l : Locale) : readMoment l text = .ok m ∧ readDate l text = .ok m.date := by
  have hscan : NumericForm.scan? (trim text.toList) = none := by
    refine Option.eq_none_iff_forall_ne_some.mpr fun form hform => ?_
    obtain ⟨sep₁, sep₂, rest, hlaid⟩ := NumericForm.scan?_laidOut hform
    rw [trimLeft_trim] at hlaid
    rw [hlaid.readMonthName?_eq_none] at hm
    cases hm
  have hread : read? l text = .ok (some m) := by
    rw [read?, readNumeric?, hscan, hm]
    rfl
  rw [readMoment, readDate, hread]
  exact ⟨rfl, rfl⟩

theorem readAlike_of_readMessageDate? (hm : readMessageDate? (trim text.toList) = some m)
    (l l' : Locale) : ReadAlike l l' text := by
  refine readAlike_of_scan? (fun form hform => ?_) l l'
  obtain ⟨sep₁, sep₂, rest, hlaid⟩ := NumericForm.scan?_laidOut hform
  rw [trimLeft_trim] at hlaid
  rw [hlaid.readMessageDate?_eq_none] at hm
  cases hm

theorem readAlike_of_readTimestamp? (hm : readTimestamp? (trim text.toList) = some m)
    (l l' : Locale) : ReadAlike l l' text := by
  refine readAlike_of_scan? (fun form hform => .inl ?_) l l'
  obtain ⟨sep₁, sep₂, rest, hlaid⟩ := NumericForm.scan?_laidOut hform
  rw [trimLeft_trim] at hlaid
  exact Nat.le_antisymm (NumericForm.scan?_cut hform).a (hlaid.of_readTimestamp? hm).2

/-- A text that does not start with a short number and a separator is
read alike in all locales.  So are texts with four digits in front, and
the texts that are dates with the month's name or of the Internet.  Two
locales with the same order of fields read every text alike. -/
theorem readAlike_everywhere :
    (∀ text, ¬ StartsShort (trim text.toList) → ∀ l l', ReadAlike l l' text) ∧
    (∀ (text : String) (ds rest : List Char), trim text.toList = ds ++ rest → ds.length = 4 →
      (∀ d ∈ ds, isAsciiDigit d = true) → ∀ l l', ReadAlike l l' text) ∧
    (∀ (text : String) m, readMonthName? (trim text.toList) = some m →
      ∀ l, readMoment l text = .ok m ∧ readDate l text = .ok m.date) ∧
    (∀ (text : String) m, readTimestamp? (trim text.toList) = some m ∨
      readMessageDate? (trim text.toList) = some m → ∀ l l', ReadAlike l l' text) ∧
    (∀ l l' : Locale, l.dateOrder = l'.dateOrder → ∀ text, ReadAlike l l' text) := by
  refine ⟨fun text => readAlike_of_not_startsShort, fun text ds rest htext hlength hds => ?_,
    fun text m => readMoment_of_readMonthName?, fun text m hm => ?_, fun l l' horder text => ?_⟩
  · exact readAlike_of_not_startsShort (htext ▸ not_startsShort_of_fourDigits hlength hds)
  · rcases hm with hm | hm
    · exact readAlike_of_readTimestamp? hm
    · exact readAlike_of_readMessageDate? hm
  · exact readAlike_of_readNumeric? (by rw [horder])

/-- A day that is none, and real days with the month's name and of a
message, in locales of different orders; and a date that has two
meanings, in two locales that agree on it. -/
theorem readAlike_everywhere_instances :
    (¬ StartsShort (trim "2019-02-30 08:00".toList) ∧
      ReadAlike (.ofTag "en-US") (.ofTag "ja") "2019-02-30 08:00") ∧
    (∃ m, readMonthName? (trim " 1 June 2019".toList) = some m ∧
      readDate (.ofTag "en-US") " 1 June 2019" = .ok m.date) ∧
    (∃ m, readMessageDate? (trim "Sat, 1 Jun 2019 08:00 GMT".toList) = some m ∧
      ReadAlike (.ofTag "en-US") (.ofTag "ja") "Sat, 1 Jun 2019 08:00 GMT") ∧
    (Locale.ofTag "de-DE").dateOrder = (Locale.ofTag "en-GB").dateOrder ∧
      ReadAlike (.ofTag "de-DE") (.ofTag "en-GB") "1.2.3" := by
  obtain ⟨hlong, -, hname, hinternet, horder⟩ := readAlike_everywhere
  have htrim : trim "2019-02-30 08:00".toList = "2019".toList ++ "-02-30 08:00".toList := by
    decide +kernel
  have hnot : ¬ StartsShort (trim "2019-02-30 08:00".toList) := by
    rw [htrim]
    exact not_startsShort_of_fourDigits (by decide) (by decide)
  have hmonthName : (readMonthName? (trim " 1 June 2019".toList)).isSome = true := by
    decide +kernel
  have hmessage : (readMessageDate? (trim "Sat, 1 Jun 2019 08:00 GMT".toList)).isSome = true := by
    decide +kernel
  have hsame : (Locale.ofTag "de-DE").dateOrder = (Locale.ofTag "en-GB").dateOrder := by
    decide +kernel
  obtain ⟨m, hm⟩ := Option.isSome_iff_exists.mp hmonthName
  obtain ⟨m', hm'⟩ := Option.isSome_iff_exists.mp hmessage
  exact ⟨⟨hnot, hlong _ hnot _ _⟩, ⟨m, hm, (hname _ m hm _).2⟩,
    ⟨m', hm', hinternet _ m' (.inr hm') _ _⟩, hsame, horder _ _ hsame _⟩

end

end RecordSieve.Calendar
