/-
RecordSieve.Proofs.Calendar.BareDate — a text without a colon carries no
time and no offset.

Every form with a time of day has a colon between its hours and minutes
(`NumericForm.IsText.colon_mem`, `colon_mem_of_readFixed?`), and an offset
follows a time or does not follow at all.  So a text without a colon is
read in one of two ways: as a numeric date that ends after its third
number, or as a date with the month's name.  Both give the start of the
day in UTC; digits, a sign or a Z behind the date make it no date.
-/
import RecordSieve.Proofs.Calendar.LocaleIndependence
import RecordSieve.Proofs.Calendar.NamedDate

namespace RecordSieve.Calendar

open RecordSieve.Text RecordSieve.Decimal

variable {form : NumericForm} {order : DateOrder} {cs rest : List Char} {f f' : Fields} {m : Moment}

/-! ## Times of day have a colon -/

theorem NumericForm.IsText.colon_mem (h : form.IsText cs) (htime : form.time ≠ none) :
    ':' ∈ cs := by
  obtain ⟨-, -, -, -, -, -, isRest⟩ := h
  cases isRest with
  | blanks => exact absurd rfl htime
  | time isTime =>
    cases isTime
    simp

theorem scanUnbounded?_suffix {n : Nat} (h : scanUnbounded? cs = some (n, rest)) : rest <:+ cs := by
  obtain ⟨n, -, heq⟩ := Option.map_eq_some_iff.mp h
  cases heq
  exact List.drop_suffix _ _

theorem scanYear?_suffix {year : Int} (h : scanYear? cs = some (year, rest)) : rest <:+ cs := by
  unfold scanYear? at h
  split at h <;> obtain ⟨⟨n, rest'⟩, hscan, heq⟩ := Option.map_eq_some_iff.mp h <;> cases heq
  · exact (scanUnbounded?_suffix hscan).trans (List.suffix_cons _ _)
  · exact (scanUnbounded?_suffix hscan).trans (List.suffix_cons _ _)
  · exact scanNumber?_suffix hscan

theorem scanShortName?_suffix {names : List Name} {i : Nat}
    (h : scanShortName? names cs = some (i, rest)) : rest <:+ cs := by
  obtain ⟨j, -, heq⟩ := Option.map_eq_some_iff.mp h
  cases heq
  exact List.drop_suffix 3 cs

theorem scanName?_suffix {names : List Name} {i : Nat}
    (h : scanName? names cs = some (i, rest)) : rest <:+ cs := by
  obtain ⟨⟨j, rest'⟩, hshort, heq⟩ := Option.map_eq_some_iff.mp h
  dsimp only at heq
  split at heq
  · next hword =>
    cases heq
    obtain ⟨name, -, hword⟩ := Option.bind_eq_some_iff.mp hword
    exact (dropWord?_suffix hword).trans (scanShortName?_suffix hshort)
  · cases heq
    exact scanShortName?_suffix hshort

theorem dropOffsetSeparator?_suffix (h : dropOffsetSeparator? cs = some rest) : rest <:+ cs := by
  cases h
  exact List.dropWhile_suffix _

theorem scanOffsetDigits?_suffix {drop? : List Char → Option (List Char)} {typographic : Bool}
    {s : Int} (hdrop : ∀ cs rest, drop? cs = some rest → rest <:+ cs)
    (h : scanOffsetDigits? drop? typographic cs = some (s, rest)) : rest <:+ cs := by
  cases cs with
  | nil => cases h
  | cons sign cs =>
    rw [scanOffsetDigits?] at h
    dsimp only at h
    split at h
    · obtain ⟨⟨hours, rest₁⟩, hhours, h⟩ := Option.bind_eq_some_iff.mp h
      obtain ⟨rest₂, hgap, h⟩ := Option.bind_eq_some_iff.mp h
      obtain ⟨⟨minutes, rest₃⟩, hminutes, h⟩ := Option.bind_eq_some_iff.mp h
      dsimp only at h
      split at h
      · cases h
        exact (scanNumber?_suffix hminutes).trans <| (hdrop _ _ hgap).trans <|
          (scanNumber?_suffix hhours).trans (List.suffix_cons sign cs)
      · cases h
    · cases h

/-- What an item leaves is the end of the text. -/
theorem Item.read?_suffix {item : Item} (h : item.read? f cs = some (f', rest)) : rest <:+ cs := by
  have hnumber {least most : Nat} (set : Nat → Fields)
      (h : (scanNumber? least most (trimLeft cs)).map (fun p => (set p.1, p.2)) =
        some (f', rest)) : rest <:+ cs := by
    obtain ⟨⟨n, rest'⟩, hscan, heq⟩ := Option.map_eq_some_iff.mp h
    cases heq
    exact (scanNumber?_suffix hscan).trans (trimLeft_suffix cs)
  cases item with
  | literal c => exact (Item.read?_literal h).1 ▸ List.suffix_cons c rest
  | blank =>
    cases h
    exact trimLeft_suffix cs
  | year =>
    obtain ⟨⟨n, rest'⟩, hscan, heq⟩ := Option.map_eq_some_iff.mp h
    cases heq
    exact (scanYear?_suffix hscan).trans (trimLeft_suffix cs)
  | month => exact hnumber (fun n => { f with month := some n }) h
  | day => exact hnumber (fun n => { f with day := some n }) h
  | hour => exact hnumber (fun n => { f with hour := some n }) h
  | minute => exact hnumber (fun n => { f with minute := some n }) h
  | second => exact hnumber (fun n => { f with second := some n }) h
  | fraction =>
    obtain ⟨⟨n, rest'⟩, hscan, heq⟩ := Option.map_eq_some_iff.mp h
    cases heq
    exact scanFraction?_suffix hscan
  | monthName | weekdayName =>
    obtain ⟨⟨i, rest'⟩, hscan, heq⟩ := Option.map_eq_some_iff.mp h
    cases heq
    exact scanName?_suffix hscan
  | offset =>
    obtain ⟨⟨s, rest'⟩, hscan, heq⟩ := Option.map_eq_some_iff.mp h
    cases heq
    exact (scanOffsetDigits?_suffix (fun _ _ => dropOffsetSeparator?_suffix) hscan).trans
      (trimLeft_suffix cs)

/-- A literal of a template stands in every text that fits it. -/
theorem literal_mem_of_readItems? {c : Char} {items : List Item} (hitem : .literal c ∈ items)
    (h : readItems? items f cs = some f') : c ∈ cs := by
  induction items generalizing f cs with
  | nil => cases hitem
  | cons item items ih =>
    obtain ⟨⟨f₁, rest⟩, hread, hrest⟩ := Option.bind_eq_some_iff.mp h
    rcases List.mem_cons.mp hitem with rfl | hitem
    · exact (Item.read?_literal hread).1 ▸ List.mem_cons_self
    · exact (Item.read?_suffix hread).subset (ih hitem hrest)

theorem colon_mem_of_readTemplate? {items : List Item} (hitem : .literal ':' ∈ items)
    (h : readTemplate? items cs = some m) : ':' ∈ cs := by
  obtain ⟨fields, hfields, -⟩ := readTemplate?_eq_some_iff.mp h
  exact literal_mem_of_readItems? hitem hfields

theorem colon_mem_of_dropLiteral? {tail : List Char} (h : dropLiteral? ':' cs = some tail) :
    ':' ∈ cs :=
  dropLiteral?_eq_some h ▸ List.mem_cons_self

theorem colon_mem_of_readTimestamp? (h : readTimestamp? cs = some m) : ':' ∈ cs := by
  unfold readTimestamp? at h
  obtain ⟨⟨year, cs₁⟩, hyear, h⟩ := Option.bind_eq_some_iff.mp h
  obtain ⟨cs₂, hdash₁, h⟩ := Option.bind_eq_some_iff.mp h
  obtain ⟨⟨month, cs₃⟩, hmonth, h⟩ := Option.bind_eq_some_iff.mp h
  obtain ⟨cs₄, hdash₂, h⟩ := Option.bind_eq_some_iff.mp h
  obtain ⟨⟨day, cs₅⟩, hday, h⟩ := Option.bind_eq_some_iff.mp h
  obtain ⟨cs₆, hmark, h⟩ := Option.bind_eq_some_iff.mp h
  obtain ⟨⟨hour, cs₇⟩, hhour, h⟩ := Option.bind_eq_some_iff.mp h
  obtain ⟨cs₈, hcolon, -⟩ := Option.bind_eq_some_iff.mp h
  obtain ⟨c, hcs₅, -⟩ := dropDateTimeMark?_eq_some hmark
  have hsuffix : cs₇ <:+ cs := (scanNumber?_suffix hhour).trans <|
    (hcs₅ ▸ List.suffix_cons c cs₆).trans <| (scanNumber?_suffix hday).trans <|
    (dropLiteral?_suffix hdash₂).trans <| (scanNumber?_suffix hmonth).trans <|
    (dropLiteral?_suffix hdash₁).trans (scanNumber?_suffix hyear)
  exact hsuffix.subset (colon_mem_of_dropLiteral? hcolon)

theorem dropBlanks?_suffix (h : dropBlanks? cs = some rest) : rest <:+ cs := by
  unfold dropBlanks? at h
  split at h
  · next c cs =>
    split at h
    · cases h
      exact (trimLeft_suffix cs).trans (List.suffix_cons c cs)
    · cases h
  · cases h

theorem scanMessageWeekday?_suffix {weekday : Option Nat}
    (h : scanMessageWeekday? cs = some (weekday, rest)) : rest <:+ cs := by
  unfold scanMessageWeekday? at h
  split at h
  · next i cs₁ hname =>
    obtain ⟨cs₂, hcomma, heq⟩ := Option.map_eq_some_iff.mp h
    cases heq
    exact (dropLiteral?_suffix hcomma).trans (scanShortName?_suffix hname)
  · cases h
    exact List.suffix_refl cs

theorem colon_mem_of_readMessageDate? (h : readMessageDate? cs = some m) : ':' ∈ cs := by
  unfold readMessageDate? at h
  obtain ⟨⟨weekday, cs₁⟩, hweekday, h⟩ := Option.bind_eq_some_iff.mp h
  obtain ⟨⟨day, cs₂⟩, hday, h⟩ := Option.bind_eq_some_iff.mp h
  obtain ⟨cs₃, hgap₁, h⟩ := Option.bind_eq_some_iff.mp h
  obtain ⟨⟨month, cs₄⟩, hmonth, h⟩ := Option.bind_eq_some_iff.mp h
  obtain ⟨cs₅, hgap₂, h⟩ := Option.bind_eq_some_iff.mp h
  obtain ⟨⟨year, cs₆⟩, hyear, h⟩ := Option.bind_eq_some_iff.mp h
  obtain ⟨cs₇, hgap₃, h⟩ := Option.bind_eq_some_iff.mp h
  obtain ⟨⟨hour, cs₈⟩, hhour, h⟩ := Option.bind_eq_some_iff.mp h
  obtain ⟨cs₉, hcolon, -⟩ := Option.bind_eq_some_iff.mp h
  have hdate : cs₄ <:+ cs := (scanShortName?_suffix hmonth).trans <|
    (dropBlanks?_suffix hgap₁).trans <| (scanNumber?_suffix hday).trans <|
    (trimLeft_suffix cs₁).trans <| (scanMessageWeekday?_suffix hweekday).trans (trimLeft_suffix cs)
  have htime : trimLeft cs₈ <:+ cs₆ := (trimLeft_suffix cs₈).trans <|
    (scanNumber?_suffix hhour).trans (dropBlanks?_suffix hgap₃)
  exact hdate.subset <| (dropBlanks?_suffix hgap₂).subset <| scanMessageYear?_subset hyear <|
    htime.subset (colon_mem_of_dropLiteral? hcolon)

/-- The forms that are the same in every locale all have a time of day. -/
theorem colon_mem_of_readFixed? (h : readFixed? cs = some m) : ':' ∈ cs := by
  simp only [readFixed?, Option.or_eq_some_iff] at h
  rcases h with h | ⟨-, h | ⟨-, h | ⟨-, h⟩⟩⟩
  · exact colon_mem_of_readTimestamp? h
  · exact colon_mem_of_readTemplate? (by decide) h
  · exact colon_mem_of_readMessageDate? h
  · exact colon_mem_of_readTemplate? (by decide) h

/-! ## Texts without a colon -/

/-- The numeric form, ended after its third number, is the start of the
day that it stands for. -/
theorem NumericForm.denotes_of_noTime (htime : form.time = none) :
    form.Denotes order m ↔ form.Reads order m.date ∧ m.time = .midnight ∧ m.offset = 0 := by
  have hoffset : form.offset = none := by rw [offset, htime, Option.bind_none]
  constructor
  · rintro ⟨hdate, hmidnight, hutc⟩
    rw [htime] at hmidnight
    rw [hoffset] at hutc
    exact ⟨hdate, hmidnight, hutc⟩
  · rintro ⟨hdate, hmidnight, hutc⟩
    exact ⟨hdate, by rwa [htime], by rwa [hoffset]⟩

theorem midnight_of_readMonthName? (h : readMonthName? cs = some m) :
    m.time = .midnight ∧ m.offset = 0 := by
  obtain ⟨date, -, hlocal⟩ := Option.bind_eq_some_iff.mp h
  exact (Moment.ofLocal?_eq_some_iff.mp hlocal).2

/-- Without a time there is no offset that could be cut inside a digit. -/
theorem not_cutsOffset_of_noColon (hcolon : ':' ∉ cs) : ¬ CutsOffset order cs := by
  rintro ⟨form, date, time, negative, ds, hform, -, -, hoffset, -⟩
  obtain ⟨t, ht, -⟩ := Option.bind_eq_some_iff.mp hoffset
  exact hcolon ((NumericForm.scan?_eq_some_iff.mp hform).colon_mem (by simp [ht]))

/-- A text without a colon is a numeric date that ends after its third
number, or a date with the month's name. -/
theorem readMoment_noColon_iff {locale : Locale} {text : String} (hcolon : ':' ∉ text.toList) :
    readMoment locale text = .ok m ↔
      (∃ form : NumericForm, form.IsText (trim text.toList) ∧ form.time = none ∧
        form.Denotes locale.dateOrder m) ∨ readMonthName? (trim text.toList) = some m := by
  have htrim : ':' ∉ trim text.toList := fun h => hcolon (trim_subset _ h)
  constructor
  · intro h
    rcases readMoment_eq_ok_cases h with hnumeric | ⟨-, hother⟩
    · cases hscan : NumericForm.scan? (trim text.toList) with
      | none =>
        rw [readNumeric?, hscan] at hnumeric
        cases hnumeric
      | some form =>
        have hform := NumericForm.scan?_eq_some_iff.mp hscan
        have htime : form.time = none := by
          by_contra htime
          exact htrim (hform.colon_mem htime)
        exact .inl ⟨form, hform, htime, hform.readNumeric?_eq_ok_iff.mp hnumeric⟩
    · rcases Option.or_eq_some_iff.mp hother with hname | ⟨-, hfixed⟩
      · exact .inr hname
      · exact absurd (colon_mem_of_readFixed? hfixed) htrim
  · rintro (⟨form, hform, -, hdenotes⟩ | hname)
    · rw [readMoment_eq_ok_iff, read?, hform.readNumeric?_eq_ok_iff.mpr hdenotes]
      rfl
    · exact (readMoment_of_readMonthName? hname locale).1

/-- A numeric date without a time has a moment, the start of its day. -/
theorem NumericForm.IsText.exists_denotes_of_noTime {d : Date} (h : form.IsText cs)
    (htime : form.time = none) (hreads : form.Reads order d) :
    ∃ m, form.Denotes order m ∧ m.date = d := by
  have hyear := hreads.year_bounds (scan?_cut h.scan?_eq).a (scan?_cut h.scan?_eq).c
  obtain ⟨m, hm⟩ : ∃ m, Moment.ofLocal? d .midnight 0 = some m :=
    Moment.exists_ofLocal? .midnight hyear (by decide) (by decide)
  obtain ⟨rfl, hmidnight, hutc⟩ := Moment.ofLocal?_eq_some_iff.mp hm
  exact ⟨m, (denotes_of_noTime htime).mpr ⟨hreads, hmidnight, hutc⟩, rfl⟩

/-- A text without a colon that is read as a moment is the start of a day
in UTC: of the day that it is read as a date.  It is read if it is a
numeric date without a time that stands for a real day, or a date with
the month's name, and is refused otherwise. -/
theorem bareDate_startsDay (locale : Locale) (text : String) (hcolon : ':' ∉ text.toList) :
    (∀ m, readMoment locale text = .ok m ↔
      readDate locale text = .ok m.date ∧ m.time = .midnight ∧ m.offset = 0) ∧
    (∀ m, readMoment locale text = .ok m →
      m.nanos = 0 ∧ m.seconds = m.date.dayNumber * secondsPerDay) ∧
    (∀ d, readDate locale text = .ok d ↔
      (∃ form : NumericForm, form.IsText (trim text.toList) ∧ form.time = none ∧
        form.Reads locale.dateOrder d) ∨
      ∃ m, readMonthName? (trim text.toList) = some m ∧ m.date = d) ∧
    ∀ failure, readMoment locale text = .error failure →
      failure = .refused (.invalid .dateTime text) := by
  have hmidnight (m : Moment) (h : readMoment locale text = .ok m) :
      m.time = .midnight ∧ m.offset = 0 := by
    rcases (readMoment_noColon_iff hcolon).mp h with ⟨form, -, htime, hdenotes⟩ | hname
    · exact ((NumericForm.denotes_of_noTime htime).mp hdenotes).2
    · exact midnight_of_readMonthName? hname
  refine ⟨fun m => ⟨fun h => ⟨readDate_eq_ok_iff.mpr ⟨m, h, rfl⟩, hmidnight m h⟩, ?_⟩,
    fun m h => ?_, fun d => ?_, fun failure h => ?_⟩
  · rintro ⟨hdate, htime, hoffset⟩
    obtain ⟨m', hm', hdate'⟩ := readDate_eq_ok_iff.mp hdate
    obtain ⟨htime', hoffset'⟩ := hmidnight m' hm'
    rwa [Moment.ext hdate'.symm (htime.trans htime'.symm) (hoffset.trans hoffset'.symm)]
  · obtain ⟨htime, hoffset⟩ := hmidnight m h
    rw [Moment.nanos, Moment.seconds, instantSeconds, htime, hoffset]
    exact ⟨rfl, by simp [ClockTime.seconds, ClockTime.midnight]⟩
  · simp only [readDate_eq_ok_iff, readMoment_noColon_iff hcolon]
    constructor
    · rintro ⟨m, ⟨form, hform, htime, hdenotes⟩ | hname, rfl⟩
      · exact .inl ⟨form, hform, htime, hdenotes.date⟩
      · exact .inr ⟨m, hname, rfl⟩
    · rintro (⟨form, hform, htime, hreads⟩ | ⟨m, hname, rfl⟩)
      · obtain ⟨m, hdenotes, rfl⟩ := hform.exists_denotes_of_noTime htime hreads
        exact ⟨m, .inl ⟨form, hform, htime, hdenotes⟩, rfl⟩
      · exact ⟨m, .inr hname, rfl⟩
  · rcases hread : read? locale text with abort | m
    · exact absurd (read?_eq_error_iff.mp hread)
        (not_cutsOffset_of_noColon fun hmem => hcolon (trim_subset _ hmem))
    · rw [readMoment, hread] at h
      cases m <;> cases h
      rfl

/-- A leap day in a locale where the day comes first. -/
theorem bareDate_startsDay_leapDay : ':' ∉ " 29.2.2020 ".toList ∧
    ∃ m, readMoment (.ofTag "de-DE") " 29.2.2020 " = .ok m ∧ m.time = .midnight ∧ m.offset = 0 ∧
      m.nanos = 0 ∧ m.seconds = 18321 * 86400 := by
  have hcolon : ':' ∉ " 29.2.2020 ".toList := by decide
  obtain ⟨hmidnight, hinstant, -, -⟩ := bareDate_startsDay (.ofTag "de-DE") _ hcolon
  have hday : (readMoment (.ofTag "de-DE") " 29.2.2020 ").toOption.map (·.date.dayNumber) =
      some 18321 := by decide +kernel
  obtain ⟨m, hm, hday⟩ := Option.map_eq_some_iff.mp hday
  have hm := toOption_eq_some_iff.mp hm
  obtain ⟨-, htime, hoffset⟩ := (hmidnight m).mp hm
  obtain ⟨hnanos, hseconds⟩ := hinstant m hm
  exact ⟨hcolon, m, hm, htime, hoffset, hnanos, by rw [hseconds, hday]; rfl⟩

end RecordSieve.Calendar
