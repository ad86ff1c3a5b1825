/-
RecordSieve.Proofs.Calendar.WrittenForms — what each form makes of a
written moment.

The numeric form reads a year of four digits first in every locale, and
gives the moment or passes it on (`readNumeric?_write`); no date with the
month's name looks like a written moment (`readMonthName?_write`); the
timestamp takes the years of four digits and the template with an offset
all others (`readTimestamp?_write`, `readTemplate?_write`).
-/
import RecordSieve.Proofs.Calendar.WrittenFields

namespace RecordSieve

open RecordSieve.Text RecordSieve.Decimal RecordSieve.Calendar

/-- The written date as a numeric form. -/
def Date.numericForm (d : Date) (time : Option TimeForm) : NumericForm :=
  ⟨padded 4 d.year.toNat, padded 2 d.month, padded 2 d.day, time⟩

/-- The written moment from the hour on as the time part of a numeric
date; the digits of the fraction are given. -/
def Moment.timeForm (m : Moment) (fraction : Option (List Char)) : TimeForm :=
  ⟨padded 2 m.time.hour, padded 2 m.time.minute, some (padded 2 m.time.writtenSecond), fraction,
    none, some (offsetForm m.offset)⟩

namespace Calendar

/-! ## The numeric form -/

theorem scan?_date {d : Date} {rest : List Char} (hyear : FourDigits d.year)
    (hrest : EndsRun rest) :
    NumericForm.scan? (d.write ++ rest) =
      if isAllBlank rest then some (d.numericForm none)
      else (scanTime? rest).map fun t => d.numericForm (some t) := by
  have hfour (cs : List Char) : digitField? 1 4 (padded 4 d.year.toNat ++ '-' :: cs) =
      some (padded 4 d.year.toNat, '-' :: cs) :=
    digitField?_padded (by decide) (by decide) (by decide) hyear.toNat_lt (endsRun_dash cs)
  have hdash (cs : List Char) : dropChar? isDateSeparator ('-' :: cs) = some cs := rfl
  rw [Date.write_append, hyear.yearText_eq, NumericForm.scan?, trimLeft_padded]
  simp only [hfour, hdash, digitField?_two, d.month_lt, d.day_lt, endsRun_dash, hrest,
    Nat.reduceLeDiff, Option.bind_eq_bind, Option.bind_some, Date.numericForm]
  split
  · rfl
  · cases scanTime? rest <;> rfl

/-- The first number of a written date has four digits, so the order of
the numbers is not asked for. -/
theorem date?_numericForm {d : Date} {time : Option TimeForm} (order : DateOrder)
    (hyear : FourDigits d.year) : (d.numericForm time).date? order = some d := by
  have hlength : (padded 4 d.year.toNat).length = 4 := length_padded (by decide) hyear.toNat_lt
  simp [NumericForm.date?, Date.numericForm, natOfDigits?_padded, hlength, hyear.toNat_cast,
    d.ofFields?_self]

/-- An offset does not start like a half of the day. -/
theorem scanHalf_offsetText (o : Int) : scanHalf (offsetText o) = (none, offsetText o) := by
  have hsign (word : List Char) (hword : word = "am".toList ∨ word = "pm".toList) :
      dropWord? word (offsetText o) = none := by
    refine if_neg ?_
    rw [offsetText]
    rcases hword with rfl | rfl <;> by_cases hneg : o < 0 <;>
      simp [hneg, equalIgnoringCase, lowerAscii]
  rw [scanHalf, hsign _ (.inl rfl)]
  dsimp only
  rw [hsign _ (.inr rfl)]

theorem scanTime?_fromHour (m : Moment) :
    ∃ fraction, scanTime? ('T' :: m.fromHour) = some (m.timeForm fraction) ∧
      fraction.elim (some 0) (fractionNanos? 9) = some (m.time.nanos % 1000000000) := by
  obtain ⟨fraction, hsecond, hfraction⟩ := scanSecond?_written m
  refine ⟨fraction, ?_, hfraction⟩
  have hmark (cs : List Char) : dropTimeMark? ('T' :: cs) = some cs := rfl
  have hcolon (cs : List Char) : dropChar? (· == ':') (':' :: cs) = some cs := rfl
  have hoffset := scanOffset?_offsetText m.offsetInRange.1 m.offsetInRange.2
  simp only [scanTime?, Moment.fromHour, hmark, hcolon, digitField?_two, m.time.hour_lt,
    m.time.minute_lt, endsRun_colon, Nat.reduceLeDiff, hsecond, trimLeft_offsetText,
    scanHalf_offsetText, hoffset, Option.bind_eq_bind, Option.bind_some]
  rfl

theorem clockTime?_timeForm {m : Moment} {fraction : Option (List Char)}
    (hm : m.time.Expressible)
    (hfraction : fraction.elim (some 0) (fractionNanos? 9) = some (m.time.nanos % 1000000000)) :
    (m.timeForm fraction).clockTime? = if m.time.nanos < 1000000000 then some m.time else none := by
  rw [← ofFields?_written hm]
  simp [TimeForm.clockTime?, Moment.timeForm, natOfDigits?_padded, hfraction]

/-- A text that starts with no digit is no numeric date. -/
theorem readNumeric?_of_endsRun {order : DateOrder} {cs : List Char} (h : EndsRun (trimLeft cs)) :
    readNumeric? order cs = .ok none := by
  have hscan : NumericForm.scan? cs = none := by
    rw [NumericForm.scan?, digitField?_of_endsRun (by decide) h]
    rfl
  rw [readNumeric?, hscan]

/-- The numeric form gives a written moment back, unless it is in a leap
second or its offset has more hours than a numeric date allows. -/
theorem readNumeric?_write {m : Moment} (order : DateOrder) (hm : m.Expressible)
    (hyear : FourDigits m.date.year) :
    readNumeric? order m.write =
      .ok (if m.time.nanos < 1000000000 ∧ m.offset.natAbs / 3600 ≤ maxOffsetHours then some m
        else none) := by
  obtain ⟨fraction, htime, hfraction⟩ := scanTime?_fromHour m
  have hblank : isAllBlank ('T' :: m.fromHour) = false := by
    have hT : isBlank 'T' = false := isBlank_eq_false (by decide)
    simp [isAllBlank, hT]
  have hscan : NumericForm.scan? m.write =
      some (m.date.numericForm (some (m.timeForm fraction))) := by
    rw [Moment.write_eq, scan?_date hyear (endsRun_timeMark _), hblank, htime]
    rfl
  have hclock : (m.date.numericForm (some (m.timeForm fraction))).clockTime? =
      if m.time.nanos < 1000000000 then some m.time else none :=
    clockTime?_timeForm hm.time hfraction
  have hoffset : (m.date.numericForm (some (m.timeForm fraction))).offset? =
      .ok (if m.offset.natAbs / 3600 ≤ maxOffsetHours then some m.offset else none) :=
    seconds?_offsetForm hm.offset
  rw [readNumeric?, hscan]
  dsimp only
  rw [NumericForm.moment?, date?_numericForm order hyear, hclock, hoffset]
  by_cases hnanos : m.time.nanos < 1000000000
  · by_cases hhours : m.offset.natAbs / 3600 ≤ maxOffsetHours <;>
      simp [hnanos, hhours, m.ofLocal?_self, bind, Except.bind, pure, Except.pure]
  · simp [hnanos]

/-! ## Names of months and days -/

/-- Every name starts with a letter. -/
def StartWithLetters (names : List Name) : Prop :=
  ∀ name ∈ names, 65 ≤ ((name.1.toList.headD ' ').toLower).toNat ∧
    ((name.1.toList.headD ' ').toLower).toNat ≤ 122

instance (names : List Name) : Decidable (StartWithLetters names) :=
  inferInstanceAs (Decidable (∀ name ∈ names, _ ∧ _))

theorem toLower_of_no_letter {c : Char} (hc : c.toNat < 65 ∨ 122 < c.toNat) : c.toLower = c := by
  refine dif_neg ?_
  intro hcap
  have hA : 65 ≤ c.toNat := hcap.1
  have hZ : c.toNat ≤ 90 := hcap.2
  omega

/-- No name starts with a character that is no letter. -/
theorem scanShortName?_of_no_letter {names : List Name} {c : Char} {cs : List Char}
    (hnames : StartWithLetters names) (hc : c.toNat < 65 ∨ 122 < c.toNat) :
    scanShortName? names (c :: cs) = none := by
  rw [scanShortName?, Option.map_eq_none_iff, List.findIdx?_eq_none_iff]
  intro name hname
  have hinitial := hnames name hname
  rw [← Bool.not_eq_true]
  intro hequal
  rw [equalIgnoringCase, beq_iff_eq] at hequal
  cases hletters : name.1.toList with
  | nil =>
    rw [hletters] at hequal
    cases hequal
  | cons d ds =>
    rw [hletters] at hequal hinitial
    have hd : c.toLower = d.toLower := (List.cons.inj hequal).1
    rw [List.headD_cons, ← hd, toLower_of_no_letter hc] at hinitial
    omega

theorem scanName?_of_no_letter {names : List Name} {c : Char} {cs : List Char}
    (hnames : StartWithLetters names) (hc : c.toNat < 65 ∨ 122 < c.toNat) :
    scanName? names (c :: cs) = none := by
  rw [scanName?, scanShortName?_of_no_letter hnames hc]
  rfl

theorem monthNames_start : StartWithLetters monthNames := by decide

theorem weekdayNames_start : StartWithLetters weekdayNames := by decide

/-- A text that starts neither with a name nor with a day and a month's
name is no date with the month's name. -/
theorem readMonthName?_eq_none {cs : List Char} (hmonth : scanName? monthNames cs = none)
    (hweekday : scanName? weekdayNames cs = none)
    (hday : ∀ n rest, scanNumber? 1 2 (trimLeft cs) = some (n, rest) →
      scanName? monthNames (trimLeft rest) = none) : readMonthName? cs = none := by
  have hnone : ∀ items ∈ monthNameTemplates, (readItems? items {} cs).bind Fields.date? = none := by
    intro items hitems
    simp only [monthNameTemplates, List.mem_cons, List.not_mem_nil, or_false] at hitems
    rcases hitems with rfl | rfl | rfl | rfl
    · simp [readItems?, Item.read?, hmonth]
    · simp [readItems?, Item.read?, hmonth]
    · cases hscan : scanNumber? 1 2 (trimLeft cs) with
      | none => simp [readItems?, Item.read?, hscan]
      | some p => simp [readItems?, Item.read?, hscan, hday p.1 p.2 hscan]
    · simp [readItems?, Item.read?, hweekday]
  rw [readMonthName?, List.findSome?_eq_none_iff.mpr hnone]
  rfl

/-- What is left of a written year of four digits after one or two of
them starts with the next. -/
theorem exists_digit_of_drop {n k : Nat} (hn : n < tenTo 4) (hk : k ≤ 2) (rest : List Char) :
    ∃ d ds, (padded 4 n ++ rest).drop k = d :: ds ∧ isAsciiDigit d = true := by
  have hlength : (padded 4 n).length = 4 := length_padded (by decide) hn
  have hne : (padded 4 n).drop k ≠ [] := by
    intro hnil
    have := List.drop_eq_nil_iff.mp hnil
    omega
  obtain ⟨d, ds, hds⟩ := List.exists_cons_of_ne_nil hne
  have hmem : d ∈ padded 4 n := List.mem_of_mem_drop (hds ▸ List.mem_cons_self)
  refine ⟨d, ds ++ rest, ?_, List.all_eq_true.mp (all_isAsciiDigit_padded 4 n) d hmem⟩
  rw [List.drop_append_of_le_length (by omega), hds, List.cons_append]

/-- What starts a written moment is no name, neither at its front nor
after the first digits of its year. -/
theorem readMonthName?_write (m : Moment) : readMonthName? m.write = none := by
  rw [Moment.write_eq, Date.write_append]
  by_cases hyear : FourDigits m.date.year
  · rw [hyear.yearText_eq]
    generalize '-' :: _ = rest
    have hname {k : Nat} (hk : k ≤ 2) {names : List Name}
        (hnames : StartWithLetters names) :
        scanName? names (trimLeft ((padded 4 m.date.year.toNat ++ rest).drop k)) = none := by
      obtain ⟨d, ds, hds, hd⟩ := exists_digit_of_drop hyear.toNat_lt hk rest
      have hlt : d.toNat < 65 := Nat.lt_of_le_of_lt (toNat_of_isAsciiDigit hd).2 (by decide)
      rw [hds, trimLeft_cons _ (isBlank_of_isAsciiDigit hd)]
      exact scanName?_of_no_letter hnames (.inl hlt)
    have hfront := @hname 0 (Nat.zero_le 2)
    rw [List.drop_zero, trimLeft_padded] at hfront
    refine readMonthName?_eq_none (hfront monthNames_start) (hfront weekdayNames_start) ?_
    intro n rest' hscan
    rw [trimLeft_padded] at hscan
    obtain ⟨k, hk, rfl⟩ := eq_drop_of_scanNumber? hscan
    exact hname hk monthNames_start
  · obtain ⟨sign, hsign, htext⟩ := exists_sign_yearText hyear
    rw [htext, List.cons_append]
    refine readMonthName?_eq_none (scanName?_of_no_letter monthNames_start (.inl hsign.toNat_lt))
      (scanName?_of_no_letter weekdayNames_start (.inl hsign.toNat_lt)) ?_
    intro n rest' hscan
    rw [trimLeft_cons _ hsign.isBlank_eq_false,
      scanNumber?_of_endsRun (by decide) (endsRun_cons hsign.isDecimalDigit_eq_false)] at hscan
    cases hscan

/-! ## Timestamps -/

/-- A text that starts with no digit is no timestamp. -/
theorem readTimestamp?_of_endsRun {cs : List Char} (h : EndsRun cs) : readTimestamp? cs = none := by
  rw [readTimestamp?, scanNumber?_of_endsRun (by decide) h]
  rfl

/-- A written moment of a year of four digits is a timestamp. -/
theorem readTimestamp?_write {m : Moment} (hm : m.Expressible) (hyear : FourDigits m.date.year) :
    readTimestamp? m.write = some m := by
  have hdate : Date.ofFields? (m.date.year.toNat : Int) m.date.month m.date.day = some m.date := by
    rw [hyear.toNat_cast]
    exact m.date.ofFields?_self
  rw [Moment.write_eq, Date.write_append, hyear.yearText_eq, Moment.fromHour, readTimestamp?]
  -- The date, each number with the mark after it …
  refine Option.bind_eq_some_iff.mpr ⟨_, scanNumber?_padded (by decide) (Nat.le_refl 4)
    (Nat.le_refl 4) hyear.toNat_lt (endsRun_dash _), ?_⟩
  refine Option.bind_eq_some_iff.mpr ⟨_, dropLiteral?_self '-' _, ?_⟩
  refine Option.bind_eq_some_iff.mpr ⟨_, scanNumber?_two (Nat.le_refl 2) m.date.month_lt
    (endsRun_dash _), ?_⟩
  refine Option.bind_eq_some_iff.mpr ⟨_, dropLiteral?_self '-' _, ?_⟩
  refine Option.bind_eq_some_iff.mpr ⟨_, scanNumber?_two (Nat.le_refl 2) m.date.day_lt
    (endsRun_timeMark _), ?_⟩
  refine Option.bind_eq_some_iff.mpr ⟨_, rfl, ?_⟩
  -- … the time of day …
  refine Option.bind_eq_some_iff.mpr ⟨_, scanNumber?_two (Nat.le_refl 2) m.time.hour_lt
    (endsRun_colon _), ?_⟩
  refine Option.bind_eq_some_iff.mpr ⟨_, dropLiteral?_self ':' _, ?_⟩
  refine Option.bind_eq_some_iff.mpr ⟨_, scanNumber?_two (Nat.le_refl 2) m.time.minute_lt
    (endsRun_colon _), ?_⟩
  refine Option.bind_eq_some_iff.mpr ⟨_, dropLiteral?_self ':' _, ?_⟩
  refine Option.bind_eq_some_iff.mpr ⟨_, scanNumber?_two (Nat.le_refl 2) m.time.writtenSecond_lt
    (endsRun_afterSecond m), ?_⟩
  refine Option.bind_eq_some_iff.mpr ⟨_, scanFraction?_afterSecond m, ?_⟩
  -- … and the offset, which is all that is left.
  refine Option.bind_eq_some_iff.mpr ⟨_, scanTimestampOffset?_offsetText hm.offset
    m.offsetInRange.1 m.offsetInRange.2, ?_⟩
  refine Option.bind_eq_some_iff.mpr ⟨_, hdate, ?_⟩
  exact Option.bind_eq_some_iff.mpr ⟨_, ofFieldsWithLeap?_written hm.time, m.ofLocal?_self⟩

/-! ## The template with an offset -/

theorem endsRun_write {m : Moment} (hyear : ¬ FourDigits m.date.year) : EndsRun m.write := by
  obtain ⟨sign, hsign, htext⟩ := exists_sign_yearText hyear
  rw [Moment.write_eq, Date.write_append, htext]
  exact endsRun_cons hsign.isDecimalDigit_eq_false

/-- The fields that the template with an offset finds in a written moment. -/
def writtenFields (m : Moment) : Fields :=
  { year := some m.date.year, month := some m.date.month, day := some m.date.day,
    hour := some m.time.hour, minute := some m.time.minute, second := some m.time.writtenSecond,
    nanos := some (m.time.nanos % 1000000000), offset := some m.offset }

theorem readItems?_write {m : Moment} (hm : m.Expressible) (hyear : ¬ FourDigits m.date.year) :
    readItems? offsetTemplate {} m.write = some (writtenFields m) := by
  have hscan (cs : List Char) := scanYear?_yearText hyear (endsRun_dash cs)
  have htrim (cs : List Char) :
      trimLeft (yearText m.date.year ++ cs) = yearText m.date.year ++ cs := by
    obtain ⟨sign, hsign, htext⟩ := exists_sign_yearText hyear
    rw [htext, List.cons_append, trimLeft_cons _ hsign.isBlank_eq_false]
  have hoffset : scanOffsetDigits? dropOffsetSeparator? true (offsetText m.offset) =
      some (m.offset, []) :=
    scanOffsetDigits?_offsetText dropOffsetSeparator?_colon hm.offset m.offsetInRange.1
      m.offsetInRange.2
  rw [Moment.write_eq, Date.write_append, Moment.fromHour]
  simp only [offsetTemplate, localTemplate, List.cons_append, List.nil_append, readItems?,
    Item.read?, htrim, hscan, trimLeft_padded, scanNumber?_two, m.date.month_lt, m.date.day_lt,
    m.time.hour_lt, m.time.minute_lt, m.time.writtenSecond_lt, endsRun_dash, endsRun_timeMark,
    endsRun_colon, endsRun_afterSecond, Nat.reduceLeDiff, scanFraction?_afterSecond,
    trimLeft_offsetText, hoffset, beq_self_eq_true, if_true, Option.map_some, Option.bind_some,
    List.isEmpty_nil, writtenFields]

/-- A written moment of a year beyond four digits fits the template with
an offset. -/
theorem readTemplate?_write {m : Moment} (hm : m.Expressible) (hyear : ¬ FourDigits m.date.year) :
    readTemplate? offsetTemplate m.write = some m := by
  rw [readTemplate?, readItems?_write hm hyear]
  simp [Fields.moment?, Fields.date?, Fields.clockTime?, writtenFields, m.date.ofFields?_self,
    ofFieldsWithLeap?_written hm.time, m.ofLocal?_self]

end Calendar

end RecordSieve
