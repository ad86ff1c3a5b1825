/-
RecordSieve.Proofs.Calendar.NamedDate — dates with the month's name and
numeric dates.

`June 1, 2019`, `1 June 2019` and `6/1/2019` are read as one date, or all
refused: with the month's name first or second, the date has the month,
and the day and the year as they are written (`IsNamed`).  The numeric
date differs from it in one thing only (`monthName_agrees`).  A year of
one or two digits is there one from 1950 to 2049, and next to the name of
a month it is a year of the first century.  Both years have the same days,
so that the texts are still accepted or refused together.
-/
import RecordSieve.Proofs.Calendar.MonthName
import RecordSieve.Proofs.Calendar.NumericMoment

namespace RecordSieve.Calendar

open RecordSieve.Text RecordSieve.Decimal

section

variable {month : Nat} {ns ks ds ys cs rest : List Char} {m : Moment}

/-! ## The forms that take the texts -/

/-- The date of a month and the digits of a day and a year, which is the
year as it stands. -/
structure IsNamed (month : Nat) (ds ys : List Char) (d : Date) : Prop where
  month : d.month = month
  day : natOfDigits? ds = some d.day
  year : ∃ n : Nat, natOfDigits? ys = some n ∧ d.year = n

/-- A text that fits one template only is the date of its fields. -/
theorem readMonthName?_eq_some_iff {items : List Item}
    (honly : (monthNameTemplates.findSome? fun items => (readItems? items {} cs).bind Fields.date?) =
      (readItems? items {} cs).bind Fields.date?)
    (hitems : ∀ f, readItems? items {} cs = some f ↔ NamedFields month ds ys f) :
    readMonthName? cs = some m ↔ IsNamed month ds ys m.date ∧ m.time = .midnight ∧ m.offset = 0 := by
  rw [readMonthName?, honly]
  constructor
  · intro h
    obtain ⟨date, hdate, hlocal⟩ := Option.bind_eq_some_iff.mp h
    obtain ⟨f, hf, hdate⟩ := Option.bind_eq_some_iff.mp hdate
    obtain ⟨day, year, hday, hyear, rfl⟩ := (hitems f).mp hf
    have hfields : Date.ofFields? year month day = some date := by
      simpa [Fields.date?] using hdate
    obtain ⟨hdateYear, hdateMonth, rfl⟩ := Date.ofFields?_eq_some_iff.mp hfields
    obtain ⟨rfl, htime, hoffset⟩ := Moment.ofLocal?_eq_some_iff.mp hlocal
    exact ⟨⟨hdateMonth, hday, year, hyear, hdateYear⟩, htime, hoffset⟩
  · rintro ⟨⟨hmonth, hday, year, hyear, hdateYear⟩, htime, hoffset⟩
    refine Option.bind_eq_some_iff.mpr ⟨m.date, ?_, Moment.ofLocal?_eq_some_iff.mpr
      ⟨rfl, htime, hoffset⟩⟩
    refine Option.bind_eq_some_iff.mpr ⟨_, (hitems _).mpr ⟨_, _, hday, hyear, rfl⟩, ?_⟩
    have hfields : Date.ofFields? year month m.date.day = some m.date :=
      Date.ofFields?_eq_some_iff.mpr ⟨hdateYear, hmonth, rfl⟩
    simp [Fields.date?, hfields]

theorem findSome?_nameFirst (hname : IsMonthName month ns) (hds : DigitText 1 2 ds) :
    (monthNameTemplates.findSome? fun items =>
      (readItems? items {} (nameFirst ns ds ys)).bind Fields.date?) =
      (readItems? [.monthName, .blank, .day, .literal ',', .blank, .year] {}
        (nameFirst ns ds ys)).bind Fields.date? := by
  have hcomma : isDecimalDigit ',' = false ∧ isBlank ',' = false :=
    ⟨isDecimalDigit_eq_false (by decide), isBlank_eq_false (by decide)⟩
  have hfield := hds.isField Nat.zero_lt_one
  -- The comma is no year, and neither is a digit of another script.
  have hsecond : readItems? [.monthName, .blank, .day, .blank, .year] {} (nameFirst ns ds ys) =
      none := by
    have htrim := hfield.trimLeft_append (',' :: ' ' :: ys)
    rw [nameFirst, readItems?_name hname]
    refine Option.eq_none_iff_forall_ne_some.mpr fun f hf => ?_
    have hf : readItems? [.day, .blank, .year] { month := some month } (ds ++ ',' :: ' ' :: ys) =
        some f := by
      rw [← trimLeft_blank htrim]
      exact hf
    obtain ⟨⟨f₁, back⟩, hpair, hyear⟩ := Option.bind_eq_some_iff.mp hf
    obtain ⟨⟨day, back⟩, hscan, heq⟩ := Option.map_eq_some_iff.mp hpair
    clear hf hpair
    cases heq
    rw [htrim] at hscan
    have hnone {c : Char} {tail : List Char} (hback : back = c :: tail)
        (hblank : isBlank c = false) (hdigit : isAsciiDigit c = false) (hsign : ¬ IsSign c) :
        False := by
      subst hback
      simp [readItems?, Item.read?, trimLeft_cons tail hblank, scanYear?_eq_none hdigit hsign]
        at hyear
    rcases scanNumber?_cases hfield hds.le_most (endsRun_cons hcomma.1) hscan with
      ⟨-, hback⟩ | ⟨c, tail, hback, hdigit, hascii⟩
    · exact hnone hback hcomma.2 (by decide) (by rintro (h | h) <;> cases h)
    · refine hnone hback (isBlank_of_isDecimalDigit hdigit) hascii fun hsign => ?_
      rw [hsign.isDecimalDigit_eq_false] at hdigit
      cases hdigit
  have hthird : scanNumber? 1 2 (trimLeft (nameFirst ns ds ys)) = none := by
    rw [nameFirst, hname.trimLeft_append]
    exact scanNumber?_of_endsRun Nat.zero_lt_one (hname.endsRun _)
  have hfourth : scanName? weekdayNames (nameFirst ns ds ys) = none := by
    rw [nameFirst, scanName?, hname.scanShortName?_weekday]
    rfl
  simp only [monthNameTemplates, List.findSome?_cons, List.findSome?_nil, hsecond]
  cases (readItems? [.monthName, .blank, .day, .literal ',', .blank, .year] {}
    (nameFirst ns ds ys)).bind Fields.date? with
  | some date => rfl
  | none => simp [readItems?, Item.read?, hthird, hfourth]

theorem findSome?_dayFirst (hds : DigitText 1 2 ds) :
    (monthNameTemplates.findSome? fun items =>
      (readItems? items {} (dayFirst ns ds ys)).bind Fields.date?) =
      (readItems? [.day, .blank, .monthName, .blank, .year] {} (dayFirst ns ds ys)).bind
        Fields.date? := by
  have hnone {names : List Name} (hnames : StartWithLetters names) :
      scanName? names (dayFirst ns ds ys) = none := by
    rw [scanName?, dayFirst, (hds.isField Nat.zero_lt_one).scanShortName?_eq_none hnames]
    rfl
  have hmonth := hnone monthNames_start
  have hweekday := hnone weekdayNames_start
  simp only [monthNameTemplates, List.findSome?_cons, List.findSome?_nil]
  cases (readItems? [.day, .blank, .monthName, .blank, .year] {} (dayFirst ns ds ys)).bind
    Fields.date? with
  | some date => simp [readItems?, Item.read?, hmonth]
  | none => simp [readItems?, Item.read?, hmonth, hweekday]

/-! ## The forms that do not -/

/-- A template with a year and a dash in front needs both. -/
theorem readTemplate?_eq_none {items : List Item} (hyear : ∀ n back, scanYear? (trimLeft cs) =
    some (n, back) → dropLiteral? '-' back = none) :
    readTemplate? (.year :: .literal '-' :: items) cs = none := by
  refine Option.eq_none_iff_forall_ne_some.mpr fun m hm => ?_
  obtain ⟨f, hf, -⟩ := Option.bind_eq_some_iff.mp hm
  obtain ⟨⟨f₁, back⟩, hpair, hrest⟩ := Option.bind_eq_some_iff.mp hf
  obtain ⟨⟨n, back⟩, hscan, heq⟩ := Option.map_eq_some_iff.mp hpair
  clear hf hpair
  cases heq
  obtain ⟨after, rfl, -⟩ := readItems?_literal hrest
  have hdash := hyear n _ hscan
  simp [dropLiteral?] at hdash

theorem readFixed?_nameFirst (hname : IsMonthName month ns) (rest : List Char) :
    readFixed? (ns ++ rest) = none := by
  have hends := hname.endsRun rest
  have htrim := hname.trimLeft_append rest
  have hyear : scanYear? (ns ++ rest) = none := by
    obtain ⟨c, ns', rfl⟩ := List.exists_cons_of_ne_nil hname.ne_nil
    have hletter := hname.letters c List.mem_cons_self
    refine scanYear?_eq_none (hends.isAsciiDigit_eq_false c rfl) (fun hsign => ?_) _
    have hlow := hsign.toNat_lt
    omega
  have htemplate {items : List Item} :
      readTemplate? (.year :: .literal '-' :: items) (ns ++ rest) = none := by
    refine readTemplate?_eq_none fun n back h => ?_
    rw [htrim, hyear] at h
    cases h
  have hmessage : readMessageDate? (ns ++ rest) = none := by
    rw [readMessageDate?, htrim, scanMessageWeekday?, hname.scanShortName?_weekday]
    refine Option.bind_eq_none_iff.mpr fun p hp => ?_
    cases hp
    dsimp only
    rw [htrim, scanNumber?_of_endsRun Nat.zero_lt_one hends]
    rfl
  rw [readFixed?, readTimestamp?_of_endsRun hends, hmessage]
  simp [localTemplate, offsetTemplate, htemplate]

theorem dropBlanks?_blank (h : trimLeft cs = cs) : dropBlanks? (' ' :: cs) = some cs := by
  rw [dropBlanks?, if_pos (by decide), h]

theorem scanMessageYear?_subset {n : Nat} (h : scanMessageYear? cs = some (n, rest)) :
    rest ⊆ cs := by
  rw [scanMessageYear?] at h
  split at h
  · obtain ⟨n, -, heq⟩ := Option.map_eq_some_iff.mp h
    cases heq
    exact List.drop_subset _ _
  · cases h

/-- In a message date a zone follows the year. -/
theorem readMessageDate?_dayFirst (hname : IsMonthName month ns) (hds : DigitText 1 2 ds)
    (hys : DigitText 1 4 ys) : readMessageDate? (dayFirst ns ds ys) = none := by
  have hblank : isDecimalDigit ' ' = false := isDecimalDigit_eq_false (by decide)
  have hfield := hds.isField Nat.zero_lt_one
  have hyear := (hys.isField Nat.zero_lt_one).trimLeft_eq
  have htrim : trimLeft (dayFirst ns ds ys) = dayFirst ns ds ys := hfield.trimLeft_append _
  have hweekday : scanMessageWeekday? (dayFirst ns ds ys) = some (none, dayFirst ns ds ys) := by
    rw [scanMessageWeekday?, dayFirst, hfield.scanShortName?_eq_none weekdayNames_start]
  rw [readMessageDate?, htrim, hweekday]
  refine Option.bind_eq_none_iff.mpr fun p hp => ?_
  cases hp
  dsimp only
  rw [htrim]
  refine Option.bind_eq_none_iff.mpr fun p hday => ?_
  rcases scanNumber?_cases hfield hds.le_most (endsRun_cons hblank) hday with
    ⟨-, hback⟩ | ⟨c, tail, hback, hdigit, -⟩
  · obtain ⟨i, tail, htail, hscan⟩ := hname.scanShortName?_eq
    rw [hback, dropBlanks?_blank (hname.trimLeft_append _)]
    dsimp only [Option.bind_eq_bind, Option.bind_some]
    rw [hscan]
    dsimp only [Option.bind_some]
    cases tail with
    | nil =>
      rw [List.nil_append, dropBlanks?_blank hyear]
      dsimp only [Option.bind_some]
      -- After the year there is nothing left, or a digit of another script.
      refine Option.bind_eq_none_iff.mpr fun r hr => ?_
      have hnone : dropBlanks? r.2 = none := by
        cases hrest : r.2 with
        | nil => rfl
        | cons c after =>
          have hc : c ∈ ys := scanMessageYear?_subset hr (hrest ▸ List.mem_cons_self)
          exact dropBlanks?_cons (isBlank_of_isDecimalDigit (hys.digits c hc))
      rw [hnone]
      rfl
    | cons c tail =>
      rw [List.cons_append,
        dropBlanks?_cons (not_blank_of_letter (htail c List.mem_cons_self)).1]
      rfl
  · rw [hback, dropBlanks?_cons (isBlank_of_isDecimalDigit hdigit)]
    rfl

theorem readFixed?_dayFirst (hname : IsMonthName month ns) (hds : DigitText 1 2 ds)
    (hys : DigitText 1 4 ys) : readFixed? (dayFirst ns ds ys) = none := by
  have hblank : isDecimalDigit ' ' = false := isDecimalDigit_eq_false (by decide)
  have hfield := hds.isField Nat.zero_lt_one
  have hends : EndsRun (' ' :: (ns ++ ' ' :: ys)) := endsRun_cons hblank
  have hmost : ds.length ≤ 4 := (hds.mono (by decide)).le_most
  have htimestamp : readTimestamp? (dayFirst ns ds ys) = none := by
    have hshort : ¬ 4 ≤ (ds.takeWhile isAsciiDigit).length := by
      have hlength := (List.takeWhile_prefix (l := ds) isAsciiDigit).length_le
      have htwo := hds.le_most
      omega
    have hscan : scanNumber? 4 4 (dayFirst ns ds ys) = none := by
      rw [scanNumber?, dayFirst, leadingDigits_field hmost hends]
      exact if_neg hshort
    rw [readTimestamp?, hscan]
    rfl
  have htemplate {items : List Item} :
      readTemplate? (.year :: .literal '-' :: items) (dayFirst ns ds ys) = none := by
    refine readTemplate?_eq_none fun n back h => ?_
    rw [dayFirst, hfield.trimLeft_append, scanYear?_field hfield] at h
    obtain ⟨⟨n', back'⟩, hscan, heq⟩ := Option.map_eq_some_iff.mp h
    cases heq
    rcases scanNumber?_cases hfield hmost hends hscan with ⟨-, rfl⟩ | ⟨c, tail, rfl, hdigit, -⟩
    · rfl
    · have hdash : isDecimalDigit '-' = false := isDecimalDigit_eq_false (by decide)
      refine if_neg fun hc => ?_
      rw [← beq_iff_eq.mp hc, hdash] at hdigit
      cases hdigit
  rw [readFixed?, htimestamp, readMessageDate?_dayFirst hname hds hys]
  simp [localTemplate, offsetTemplate, htemplate]

/-! ## What is read -/

/-- The text is read as the date that satisfies a property, and refused if
there is none. -/
def ReadsAs (locale : Locale) (text : String) (p : Date → Prop) : Prop :=
  (∀ d, readDate locale text = .ok d ↔ p d) ∧
    ((∀ d, ¬ p d) → readDate locale text = Attempt.refuse (.invalid .date text))

theorem ReadsAs.cases {locale : Locale} {text : String} {p : Date → Prop}
    (h : ReadsAs locale text p) :
    (∃ d, readDate locale text = .ok d) ∨
      readDate locale text = Attempt.refuse (.invalid .date text) := by
  by_cases hsome : ∃ d, p d
  · obtain ⟨d, hd⟩ := hsome
    exact .inl ⟨d, (h.1 d).mpr hd⟩
  · exact .inr (h.2 fun d hd => hsome ⟨d, hd⟩)

/-- The readers are tried one after the other, unless the first breaks off. -/
theorem readsAs_of_readNumeric? {locale : Locale} {text : String} {numeric : Option Moment}
    {p : Date → Prop} (hnumeric : readNumeric? locale.dateOrder (trim text.toList) = .ok numeric)
    (hp : ∀ d, (∃ m, numeric.or ((readMonthName? (trim text.toList)).or
      (readFixed? (trim text.toList))) = some m ∧ m.date = d) ↔ p d) : ReadsAs locale text p := by
  have hread : read? locale text = .ok (numeric.or ((readMonthName? (trim text.toList)).or
      (readFixed? (trim text.toList)))) := by
    rw [read?, hnumeric]
    cases numeric <;> rfl
  revert hread hp
  generalize numeric.or _ = found
  intro hp hread
  rw [ReadsAs, readDate, hread]
  cases found with
  | none =>
    have hnot (d : Date) : ¬ p d := by
      intro hd
      obtain ⟨m, hm, -⟩ := (hp d).mpr hd
      cases hm
    refine ⟨fun d => iff_of_false (fun h => ?_) (hnot d), fun _ => rfl⟩
    cases h
  | some m =>
    have hdate (d : Date) : m.date = d ↔ p d := by
      rw [← hp d]
      constructor
      · intro h
        exact ⟨m, rfl, h⟩
      · rintro ⟨m', hm', h⟩
        exact Option.some.inj hm' ▸ h
    refine ⟨fun d => ?_, fun hnot => absurd ((hdate m.date).mp rfl) (hnot m.date)⟩
    rw [← hdate d]
    exact ⟨fun h => Except.ok.inj h, fun h => h ▸ rfl⟩

/-- A text that ends in a field has no blanks at its end. -/
theorem trim_eq_of_lastField {front : List Char} (hys : IsField ys) (hcut : cs = front ++ ys)
    (hfront : trimLeft cs = cs) : trim cs = cs := by
  obtain ⟨c, back, hback⟩ :=
    List.exists_cons_of_ne_nil (List.reverse_ne_nil_iff.mpr hys.ne_nil)
  have hc : isBlank c = false := isBlank_of_isDecimalDigit
    (hys.digits c (List.mem_reverse.mp (hback ▸ List.mem_cons_self)))
  rw [trim, hfront, trimRight, hcut, List.reverse_append, hback, List.cons_append,
    List.dropWhile_cons_of_neg (by simp [hc]), ← List.cons_append, ← hback, ← List.reverse_append,
    List.reverse_reverse]

theorem IsNamed.exists_midnight {d : Date} (h : IsNamed month ds ys d) (hys : DigitText 1 4 ys) :
    ∃ m, Moment.ofLocal? d .midnight 0 = some m := by
  obtain ⟨year, hyear, hdate⟩ := h.year
  have hlt : year < 10000 :=
    Nat.lt_of_lt_of_le (natOfDigits?_lt hyear) (tenTo_le_tenTo hys.le_most)
  exact Moment.exists_ofLocal? .midnight (by omega) (by decide) (by decide)

/-- A text that only the reader of names takes is read as what it finds. -/
theorem readsAs_isNamed {locale : Locale} (hys : DigitText 1 4 ys) (htrim : trim cs = cs)
    (hnumeric : readNumeric? locale.dateOrder cs = .ok none) (hfixed : readFixed? cs = none)
    (hname : ∀ m, readMonthName? cs = some m ↔
      IsNamed month ds ys m.date ∧ m.time = .midnight ∧ m.offset = 0) :
    ReadsAs locale (String.ofList cs) (IsNamed month ds ys) := by
  rw [← htrim, ← String.toList_ofList (l := cs)] at hnumeric
  refine readsAs_of_readNumeric? hnumeric fun d => ?_
  rw [String.toList_ofList, htrim, hfixed, Option.or_none, Option.none_or]
  simp only [hname]
  constructor
  · rintro ⟨m, ⟨hnamed, -⟩, rfl⟩
    exact hnamed
  · intro hnamed
    obtain ⟨m, hm⟩ := hnamed.exists_midnight hys
    obtain ⟨rfl, htime, hoffset⟩ := Moment.ofLocal?_eq_some_iff.mp hm
    exact ⟨m, ⟨hnamed, htime, hoffset⟩, rfl⟩

theorem readsAs_nameFirst (locale : Locale) (hname : IsMonthName month ns) (hds : DigitText 1 2 ds)
    (hys : DigitText 1 4 ys) :
    ReadsAs locale (String.ofList (nameFirst ns ds ys)) (IsNamed month ds ys) := by
  have hcut : nameFirst ns ds ys = (ns ++ ' ' :: (ds ++ [',', ' '])) ++ ys := by simp [nameFirst]
  have htrim : trim (nameFirst ns ds ys) = nameFirst ns ds ys :=
    trim_eq_of_lastField (hys.isField Nat.zero_lt_one) hcut (hname.trimLeft_append _)
  have hends : EndsRun (trimLeft (nameFirst ns ds ys)) := by
    rw [nameFirst, hname.trimLeft_append]
    exact hname.endsRun _
  exact readsAs_isNamed hys htrim (readNumeric?_of_endsRun hends) (readFixed?_nameFirst hname _)
    fun m => readMonthName?_eq_some_iff (findSome?_nameFirst hname hds) fun f =>
      readItems?_nameFirst hname hds hys

theorem readsAs_dayFirst (locale : Locale) (hname : IsMonthName month ns) (hds : DigitText 1 2 ds)
    (hys : DigitText 1 4 ys) :
    ReadsAs locale (String.ofList (dayFirst ns ds ys)) (IsNamed month ds ys) := by
  have hblank : isDecimalDigit ' ' = false := isDecimalDigit_eq_false (by decide)
  have hfield := hds.isField Nat.zero_lt_one
  have htrimLeft : trimLeft (dayFirst ns ds ys) = dayFirst ns ds ys := hfield.trimLeft_append _
  have hcut : dayFirst ns ds ys = (ds ++ ' ' :: (ns ++ [' '])) ++ ys := by simp [dayFirst]
  have htrim : trim (dayFirst ns ds ys) = dayFirst ns ds ys :=
    trim_eq_of_lastField (hys.isField Nat.zero_lt_one) hcut htrimLeft
  -- The blank after the day is no separator.
  have hscan : NumericForm.scan? (dayFirst ns ds ys) = none := by
    have hday : DigitText 1 4 ds := hds.mono (by decide)
    rw [NumericForm.scan?, htrimLeft, dayFirst, hday.digitField?_eq (endsRun_cons hblank)]
    rfl
  have hnumeric : readNumeric? locale.dateOrder (dayFirst ns ds ys) = .ok none := by
    rw [readNumeric?, hscan]
  exact readsAs_isNamed hys htrim hnumeric (readFixed?_dayFirst hname hds hys)
    fun m => readMonthName?_eq_some_iff (findSome?_dayFirst hds) fun f =>
      readItems?_dayFirst hname hds hys

/-- The text of a numeric date with slashes. -/
def slashed (ks ds ys : List Char) : List Char := ks ++ '/' :: (ds ++ '/' :: ys)

/-- The numeric form of that text. -/
def slashedForm (ks ds ys : List Char) : NumericForm := ⟨ks, ds, ys, none⟩

theorem readFixed?_slashed (hks : DigitText 1 2 ks) (hds : DigitText 1 2 ds)
    (hys : DigitText 1 4 ys) :
    readMonthName? (slashed ks ds ys) = none ∧ readFixed? (slashed ks ds ys) = none := by
  have hlaid : (slashedForm ks ds ys).LaidOut '/' '/' [] (slashed ks ds ys) :=
    { text := by simp [slashed, slashedForm]
      a := hks.isField Nat.zero_lt_one
      b := hds.isField Nat.zero_lt_one
      c := hys.isField Nat.zero_lt_one
      isSeparator₁ := by decide
      isSeparator₂ := by decide
      ends := endsRun_nil }
  refine ⟨hlaid.readMonthName?_eq_none, Option.eq_none_iff_forall_ne_some.mpr fun m hm => ?_⟩
  rcases (hlaid.of_readFixed? hm).2 with hfour | ⟨hdash, -⟩
  · have htwo : ks.length ≤ 2 := hks.le_most
    have hfour : 4 ≤ ks.length := hfour
    omega
  · cases hdash

theorem isText_slashed (hks : DigitText 1 2 ks) (hds : DigitText 1 2 ds) (hys : DigitText 1 4 ys) :
    (slashedForm ks ds ys).IsText (slashed ks ds ys) := by
  have hfirst : DigitText 1 4 ks := hks.mono (by decide)
  have htext := NumericForm.IsText.intro (show isAllBlank [] = true from rfl) hfirst
    (show isDateSeparator '/' = true by decide) hds (show isDateSeparator '/' = true by decide) hys
    (.blanks (show isAllBlank [] = true from rfl))
  rwa [List.nil_append, List.append_nil] at htext

/-- A numeric date without a time is the start of its day. -/
theorem readNumeric?_of_noTime {form : NumericForm} {order : DateOrder} (h : form.IsText cs)
    (htime : form.time = none) :
    readNumeric? order cs =
      .ok ((form.date? order).bind fun d => Moment.ofLocal? d .midnight 0) := by
  rw [readNumeric?, h.scan?_eq]
  dsimp only
  rw [NumericForm.moment?, NumericForm.clockTime?, NumericForm.offset?, htime]
  cases form.date? order <;> rfl

theorem readsAs_slashed (hks : DigitText 1 2 ks) (hds : DigitText 1 2 ds)
    (hys : DigitText 1 4 ys) :
    ReadsAs .invariant (String.ofList (slashed ks ds ys)) fun d =>
      natOfDigits? ks = some d.month ∧ natOfDigits? ds = some d.day ∧ IsYear ys d.year := by
  have horder : Locale.invariant.dateOrder = .monthDayYear := by decide +kernel
  have hcut : slashed ks ds ys = (ks ++ '/' :: (ds ++ ['/'])) ++ ys := by simp [slashed]
  have htrim : trim (slashed ks ds ys) = slashed ks ds ys :=
    trim_eq_of_lastField (hys.isField Nat.zero_lt_one) hcut
      ((hks.isField Nat.zero_lt_one).trimLeft_append _)
  have hreads (d : Date) : (slashedForm ks ds ys).Reads .monthDayYear d ↔
      natOfDigits? ks = some d.month ∧ natOfDigits? ds = some d.day ∧ IsYear ys d.year := by
    have htwo : ¬ (slashedForm ks ds ys).a.length = 4 := by
      have hle : (slashedForm ks ds ys).a.length ≤ 2 := hks.le_most
      omega
    rw [NumericForm.Reads, if_neg htwo]
    rfl
  have hnumeric : readNumeric? .monthDayYear (slashed ks ds ys) =
      .ok (((slashedForm ks ds ys).date? .monthDayYear).bind fun d =>
        Moment.ofLocal? d .midnight 0) :=
    readNumeric?_of_noTime (isText_slashed hks hds hys) rfl
  obtain ⟨hname, hfixed⟩ := readFixed?_slashed hks hds hys
  rw [← htrim, ← String.toList_ofList (l := slashed ks ds ys), ← horder] at hnumeric
  refine readsAs_of_readNumeric? hnumeric fun d => ?_
  rw [String.toList_ofList, htrim, hname, hfixed, Option.or_none, Option.or_none, horder,
    ← hreads d]
  constructor
  · rintro ⟨m, hm, rfl⟩
    obtain ⟨date, hdate, hlocal⟩ := Option.bind_eq_some_iff.mp hm
    rw [(Moment.ofLocal?_eq_some_iff.mp hlocal).1]
    exact NumericForm.date?_eq_some_iff.mp hdate
  · intro hd
    have hyear : 0 ≤ d.year ∧ d.year ≤ 9999 :=
      NumericForm.Reads.year_bounds hd (Nat.le_trans hks.le_most (by decide)) hys.le_most
    obtain ⟨m, hm⟩ : ∃ m, Moment.ofLocal? d .midnight 0 = some m :=
      Moment.exists_ofLocal? .midnight hyear (by decide) (by decide)
    exact ⟨m, Option.bind_eq_some_iff.mpr ⟨d, NumericForm.date?_eq_some_iff.mpr hd, hm⟩,
      (Moment.ofLocal?_eq_some_iff.mp hm).1⟩

/-! ## Years of one and two digits -/

/-- A year from 1950 to 2049 is a leap year if its last two digits are one. -/
theorem isLeapYear_of_lastDigits {year : Int} {n : Nat} (hyear : 1950 ≤ year ∧ year ≤ 2049)
    (hn : year % 100 = n) : isLeapYear n = isLeapYear year := by
  rw [Bool.eq_iff_iff]
  simp only [isLeapYear, Bool.and_eq_true, Bool.or_eq_true, beq_iff_eq, bne_iff_ne]
  omega

/-- A date is one too in any other year that is a leap year if its own is. -/
theorem exists_inYear (d : Date) {year : Int} (hyear : minYear ≤ year ∧ year ≤ maxYear)
    (hleap : isLeapYear year = isLeapYear d.year) :
    ∃ e : Date, e.year = year ∧ e.month = d.month ∧ e.day = d.day := by
  have hdays : daysInMonth year d.month = daysInMonth d.year d.month := by
    simp only [daysInMonth, hleap]
  exact ⟨⟨year, d.month, d.day, hyear, hdays ▸ d.dayInMonth⟩, rfl, rfl, rfl⟩

/-- The same digits of a short year are a date in both centuries, or in none. -/
theorem exists_isNamed_iff (hshort : ys.length ≤ 2) :
    (∃ d, IsNamed month ds ys d) ↔
      ∃ d : Date, d.month = month ∧ natOfDigits? ds = some d.day ∧ IsYear ys d.year := by
  have hwide {year : Int} (hlow : 0 ≤ year) (hhigh : year ≤ 9999) :
      minYear ≤ year ∧ year ≤ maxYear := by
    simp only [minYear, maxYear]
    omega
  constructor
  · rintro ⟨d, rfl, hday, n, hn, hd⟩
    have hyear : IsYear ys (expandYear ys.length n) :=
      yearField?_eq_some_iff.mp (by rw [yearField?, hn, Option.map_some])
    generalize expandYear ys.length n = year at hyear
    obtain ⟨n', hn', hrange⟩ := hyear
    rw [hn, Option.some.injEq] at hn'
    subst hn'
    rw [if_pos hshort] at hrange
    have hleap := isLeapYear_of_lastDigits ⟨hrange.1, hrange.2.1⟩ hrange.2.2
    obtain ⟨e, rfl, hmonth, heday⟩ :=
      exists_inYear d (hwide (by omega) (by omega)) (hd ▸ hleap.symm)
    refine ⟨e, hmonth, heday ▸ hday, n, hn, ?_⟩
    rwa [if_pos hshort]
  · rintro ⟨d, rfl, hday, n, hn, hrange⟩
    rw [if_pos hshort] at hrange
    have hleap := isLeapYear_of_lastDigits ⟨hrange.1, hrange.2.1⟩ hrange.2.2
    obtain ⟨e, heyear, hmonth, heday⟩ := exists_inYear d (hwide (by omega) (by omega)) hleap
    exact ⟨e, hmonth, heday ▸ hday, n, hn, heyear⟩

/-- A date with the month's name and the same date with the month's number
are read alike: both with a name as the date that is written, and the
numeric one too if its year has more than two digits.  If it has fewer,
the texts are accepted or refused together, and as days that differ in
the century. -/
theorem monthName_agrees (hname : IsMonthName month ns) (hks : DigitText 1 2 ks)
    (hmonth : natOfDigits? ks = some month) (hds : DigitText 1 2 ds) (hys : DigitText 1 4 ys) :
    (∀ d, readDate .invariant (String.ofList (nameFirst ns ds ys)) = .ok d ↔
      IsNamed month ds ys d) ∧
    (∀ d, readDate .invariant (String.ofList (dayFirst ns ds ys)) = .ok d ↔
      IsNamed month ds ys d) ∧
    (3 ≤ ys.length → ∀ d, readDate .invariant (String.ofList (slashed ks ds ys)) = .ok d ↔
      IsNamed month ds ys d) ∧
    (ys.length ≤ 2 →
      ((∃ d, readDate .invariant (String.ofList (slashed ks ds ys)) = .ok d) ↔
        ∃ d, IsNamed month ds ys d) ∧
      ∀ d e, IsNamed month ds ys d →
        readDate .invariant (String.ofList (slashed ks ds ys)) = .ok e →
        (e.month = d.month ∧ e.day = d.day) ∧ (0 ≤ d.year ∧ d.year ≤ 99) ∧
          (1950 ≤ e.year ∧ e.year ≤ 2049) ∧ e.year % 100 = d.year) ∧
    ∀ cs ∈ [nameFirst ns ds ys, dayFirst ns ds ys, slashed ks ds ys],
      (∃ d, readDate .invariant (String.ofList cs) = .ok d) ∨
        readDate .invariant (String.ofList cs) =
          Attempt.refuse (.invalid .date (String.ofList cs)) := by
  have hnameFirst := readsAs_nameFirst .invariant hname hds hys
  have hdayFirst := readsAs_dayFirst .invariant hname hds hys
  have hslashed := readsAs_slashed hks hds hys
  simp only [hmonth, Option.some.injEq, eq_comm (a := month)] at hslashed
  refine ⟨hnameFirst.1, hdayFirst.1, fun hlong d => ?_, fun hshort => ⟨?_, ?_⟩, ?_⟩
  · rw [hslashed.1 d]
    have hnot : ¬ ys.length ≤ 2 := by omega
    constructor
    · rintro ⟨hm, hd, n, hn, hyear⟩
      rw [if_neg hnot] at hyear
      exact ⟨hm, hd, n, hn, hyear⟩
    · rintro ⟨hm, hd, n, hn, hyear⟩
      refine ⟨hm, hd, n, hn, ?_⟩
      rwa [if_neg hnot]
  · simp only [hslashed.1, exists_isNamed_iff hshort]
  · rintro d e ⟨hm, hd, n, hn, hyear⟩ he
    obtain ⟨hm', hd', n', hn', hyear'⟩ := (hslashed.1 e).mp he
    rw [if_pos hshort] at hyear'
    rw [hn, Option.some.injEq] at hn'
    subst hn'
    rw [hd, Option.some.injEq] at hd'
    have hlt : n < 100 := Nat.lt_of_lt_of_le (natOfDigits?_lt hn) (tenTo_le_tenTo hshort)
    omega
  · intro cs hcs
    simp only [List.mem_cons, List.not_mem_nil, or_false] at hcs
    rcases hcs with rfl | rfl | rfl
    · exact hnameFirst.cases
    · exact hdayFirst.cases
    · exact hslashed.cases

/-- The last day of a leap February, with a short name in small letters. -/
theorem monthName_agrees_leapDay :
    IsMonthName 2 "feb".toList ∧ DigitText 1 2 ['2'] ∧ natOfDigits? ['2'] = some 2 ∧
      DigitText 1 2 ['2', '9'] ∧ DigitText 1 4 "2020".toList ∧
    ∃ d : Date, d.year = 2020 ∧
      readDate .invariant (String.ofList (nameFirst "feb".toList ['2', '9'] "2020".toList)) = .ok d ∧
      readDate .invariant (String.ofList (dayFirst "feb".toList ['2', '9'] "2020".toList)) = .ok d ∧
      readDate .invariant (String.ofList (slashed ['2'] ['2', '9'] "2020".toList)) = .ok d := by
  have hname : IsMonthName 2 "feb".toList := ⟨"February", by decide, .inr (by decide)⟩
  have hks : DigitText 1 2 ['2'] := ⟨by decide, by decide, by decide⟩
  have hds : DigitText 1 2 ['2', '9'] := ⟨by decide, by decide, by decide⟩
  have hys : DigitText 1 4 "2020".toList := ⟨by decide, by decide, by decide⟩
  obtain ⟨hnameFirst, hdayFirst, hslashed, -, -⟩ :=
    monthName_agrees hname hks (by decide) hds hys
  have hnamed : IsNamed 2 ['2', '9'] "2020".toList ⟨2020, 2, 29, by decide, by decide⟩ :=
    ⟨rfl, by decide, 2020, by decide, rfl⟩
  exact ⟨hname, hks, by decide, hds, hys, _, rfl, (hnameFirst _).mpr hnamed,
    (hdayFirst _).mpr hnamed, (hslashed (by decide) _).mpr hnamed⟩

/-- In a year of two digits the month's name and its number give days of
different centuries. -/
theorem not_monthName_agrees_of_twoDigits : ¬ ∀ (month : Nat) (ns ks ds ys : List Char),
    IsMonthName month ns → DigitText 1 2 ks → natOfDigits? ks = some month → DigitText 1 2 ds →
    DigitText 1 4 ys → ∀ d, readDate .invariant (String.ofList (nameFirst ns ds ys)) = .ok d ↔
      readDate .invariant (String.ofList (slashed ks ds ys)) = .ok d := by
  intro h
  have hagree := h 6 "June".toList ['6'] ['1'] ['1', '9'] ⟨"June", by decide, .inl (by decide)⟩
    ⟨by decide, by decide, by decide⟩ (by decide) ⟨by decide, by decide, by decide⟩
    ⟨by decide, by decide, by decide⟩
  have hname : (readDate .invariant (String.ofList (nameFirst "June".toList ['1'] ['1', '9']))).toOption
      = some ⟨19, 6, 1, by decide, by decide⟩ := by decide +kernel
  have hslash : (readDate .invariant (String.ofList (slashed ['6'] ['1'] ['1', '9']))).toOption =
      some ⟨2019, 6, 1, by decide, by decide⟩ := by decide +kernel
  have hread := (hagree _).mp (toOption_eq_some_iff.mp hname)
  rw [toOption_eq_some_iff.mpr hread, Option.some.injEq] at hslash
  exact absurd (congrArg Date.year hslash) (by decide)

end

end RecordSieve.Calendar
