/-
RecordSieve.Proofs.Calendar.WrittenFields — what the readers find in a
written year, fraction, time of day and offset.

A written moment is taken apart from the front: `Moment.write_eq` cuts it
into the pieces that the readers look for, and there is one lemma for
each piece and each reader that meets it.  The two pieces that are more
than a number are the second, where 60 is the leap second of second 59,
and the offset, whose hours a numeric date allows up to 14 only.
-/
import RecordSieve.Calendar.Reader
import RecordSieve.Calendar.Writer
import RecordSieve.Proofs.Calendar.Expressible
import RecordSieve.Proofs.Calendar.NumericScan

namespace RecordSieve

open RecordSieve.Text RecordSieve.Decimal RecordSieve.Calendar

/-! ## The pieces of a written moment -/

/-- The second as it is written, where 60 is a leap second. -/
def ClockTime.writtenSecond (t : ClockTime) : Nat := t.second + t.nanos / 1000000000

/-- The written moment after its second: a fraction and the offset. -/
def Moment.afterSecond (m : Moment) : List Char :=
  fractionText (m.time.nanos % 1000000000) ++ offsetText m.offset

/-- The written moment from the hour on. -/
def Moment.fromHour (m : Moment) : List Char :=
  padded 2 m.time.hour ++ (':' :: (padded 2 m.time.minute ++ (':' ::
    (padded 2 m.time.writtenSecond ++ m.afterSecond))))

theorem Date.write_append (d : Date) (rest : List Char) :
    d.write ++ rest =
      yearText d.year ++ ('-' :: (padded 2 d.month ++ ('-' :: (padded 2 d.day ++ rest)))) := by
  simp [Date.write]

theorem Moment.write_eq (m : Moment) : m.write = m.date.write ++ ('T' :: m.fromHour) := by
  simp [Moment.write, ClockTime.write, Moment.fromHour, Moment.afterSecond,
    ClockTime.writtenSecond]

/-! ## Numbers of two digits -/

theorem Calendar.daysInMonth_le (year : Int) (month : Nat) : daysInMonth year month ≤ 31 := by
  unfold daysInMonth
  split
  -- February is the one month whose length depends on the year.
  case h_12 => split <;> omega
  all_goals omega

theorem Date.month_lt (d : Date) : d.month < 100 := by
  have := d.month_bounds
  omega

theorem Date.day_lt (d : Date) : d.day < 100 := by
  have := d.dayInMonth.2
  have := daysInMonth_le d.year d.month
  omega

theorem ClockTime.hour_lt (t : ClockTime) : t.hour < 100 := by
  have := t.inRange
  omega

theorem ClockTime.minute_lt (t : ClockTime) : t.minute < 100 := by
  have := t.inRange
  omega

theorem ClockTime.writtenSecond_lt (t : ClockTime) : t.writtenSecond < 100 := by
  obtain ⟨-, -, hsecond, hnanos⟩ := t.inRange
  rw [ClockTime.writtenSecond]
  omega

theorem Date.ofFields?_self (d : Date) : Date.ofFields? d.year d.month d.day = some d :=
  Date.ofFields?_eq_some_iff.mpr ⟨rfl, rfl, rfl⟩

theorem Moment.ofLocal?_self (m : Moment) : Moment.ofLocal? m.date m.time m.offset = some m :=
  Moment.ofLocal?_eq_some_iff.mpr ⟨rfl, rfl, rfl⟩

namespace Calendar

/-! ## Signs -/

/-- The sign of an offset, or of a year beyond four digits. -/
def IsSign (c : Char) : Prop := c = '-' ∨ c = '+'

theorem isSign_ite (p : Prop) [Decidable p] : IsSign (if p then '-' else '+') := by
  split
  · exact .inl rfl
  · exact .inr rfl

theorem IsSign.isDecimalDigit_eq_false {c : Char} (h : IsSign c) : isDecimalDigit c = false := by
  rcases h with rfl | rfl <;> exact Calendar.isDecimalDigit_eq_false (by decide)

theorem IsSign.isBlank_eq_false {c : Char} (h : IsSign c) : isBlank c = false := by
  rcases h with rfl | rfl <;> exact Calendar.isBlank_eq_false (by decide)

/-- A sign comes before all letters. -/
theorem IsSign.toNat_lt {c : Char} (h : IsSign c) : c.toNat < 65 := by
  rcases h with rfl | rfl <;> decide

theorem IsSign.ne_point {c : Char} (h : IsSign c) : c ≠ '.' ∧ c ≠ ',' := by
  rcases h with rfl | rfl <;> decide

/-! ## Years -/

/-- A year that is written without a sign. -/
def FourDigits (year : Int) : Prop := 0 ≤ year ∧ year ≤ 9999

theorem FourDigits.toNat_lt {year : Int} (h : FourDigits year) : year.toNat < tenTo 4 := by
  have hten : tenTo 4 = 10000 := rfl
  rw [FourDigits] at h
  omega

theorem FourDigits.toNat_cast {year : Int} (h : FourDigits year) : (year.toNat : Int) = year :=
  Int.toNat_of_nonneg h.1

theorem FourDigits.yearText_eq {year : Int} (h : FourDigits year) :
    yearText year = padded 4 year.toNat := if_pos h

theorem exists_sign_yearText {year : Int} (h : ¬ FourDigits year) :
    ∃ sign, IsSign sign ∧ yearText year = sign :: padded 4 year.natAbs :=
  ⟨_, isSign_ite _, if_neg h⟩

theorem scanYear?_yearText {year : Int} {rest : List Char} (hyear : ¬ FourDigits year)
    (hrest : EndsRun rest) : scanYear? (yearText year ++ rest) = some (year, rest) := by
  have htext : yearText year = (if year < 0 then '-' else '+') :: padded 4 year.natAbs :=
    if_neg hyear
  rw [htext]
  split
  · next hneg =>
    have habs : -(year.natAbs : Int) = year := by omega
    rw [List.cons_append, scanYear?, scanUnbounded?_padded hrest]
    exact congrArg (fun n => some (n, rest)) habs
  · next hpos =>
    have habs : (year.natAbs : Int) = year := by omega
    rw [List.cons_append, scanYear?, scanUnbounded?_padded hrest]
    exact congrArg (fun n => some (n, rest)) habs

/-! ## Fractions of a second -/

/-- A fraction is left out when it is zero; otherwise its digits are those
of a number that makes the nanoseconds at its place. -/
theorem fractionText_cases {nanos : Nat} (h : nanos < 1000000000) :
    fractionText nanos = [] ∧ nanos = 0 ∨
      ∃ places n, fractionText nanos = '.' :: padded places n ∧ 0 < places ∧ places ≤ 9 ∧
        n < tenTo places ∧ n * tenTo (9 - places) = nanos := by
  have h₃ : tenTo 3 = 1000 := rfl
  have h₆ : tenTo 6 = 1000000 := rfl
  have h₉ : tenTo 9 = 1000000000 := rfl
  have h₀ : tenTo 0 = 1 := rfl
  rw [fractionText]
  split
  · next hzero => exact .inl ⟨rfl, hzero⟩
  · right
    split
    · exact ⟨3, _, rfl, by decide, by decide, by omega, by simp only [h₆]; omega⟩
    · split
      · exact ⟨6, _, rfl, by decide, by decide, by omega, by simp only [h₃]; omega⟩
      · exact ⟨9, _, rfl, by decide, by decide, by omega, by simp only [h₀]; omega⟩

theorem endsRun_offsetText (o : Int) : EndsRun (offsetText o) :=
  endsRun_cons (isSign_ite _).isDecimalDigit_eq_false

theorem endsRun_afterSecond (m : Moment) : EndsRun m.afterSecond := by
  have hpoint : isDecimalDigit '.' = false := isDecimalDigit_eq_false (by decide)
  rw [Moment.afterSecond]
  rcases fractionText_cases (Nat.mod_lt m.time.nanos (by decide)) with
    ⟨htext, -⟩ | ⟨places, n, htext, -⟩
  · rw [htext]
    exact endsRun_offsetText m.offset
  · rw [htext]
    exact endsRun_cons hpoint

theorem scanFraction?_afterSecond (m : Moment) :
    scanFraction? m.afterSecond = some (m.time.nanos % 1000000000, offsetText m.offset) := by
  rw [Moment.afterSecond]
  rcases fractionText_cases (Nat.mod_lt m.time.nanos (by decide)) with
    ⟨htext, hzero⟩ | ⟨places, n, htext, hpos, hnine, hn, hnanos⟩
  · rw [htext, hzero, List.nil_append, offsetText]
    unfold scanFraction?
    split
    · next hcons => exact absurd (List.cons.inj hcons).1 (isSign_ite _).ne_point.1
    · rfl
  · rw [htext, List.cons_append, scanFraction?,
      scanNanos?_padded hpos hnine hn (endsRun_offsetText m.offset), hnanos]

theorem scanSecond?_written (m : Moment) :
    ∃ fraction, scanSecond? (':' :: (padded 2 m.time.writtenSecond ++ m.afterSecond)) =
        some (some (padded 2 m.time.writtenSecond), fraction, offsetText m.offset) ∧
      fraction.elim (some 0) (fractionNanos? 9) = some (m.time.nanos % 1000000000) := by
  have hfield : digitField? 2 2 (padded 2 m.time.writtenSecond ++ m.afterSecond) =
      some (padded 2 m.time.writtenSecond, m.afterSecond) :=
    digitField?_two (Nat.le_refl 2) (Nat.le_refl 2) m.time.writtenSecond_lt (endsRun_afterSecond m)
  rw [Moment.afterSecond] at hfield ⊢
  rcases fractionText_cases (Nat.mod_lt m.time.nanos (by decide)) with
    ⟨htext, hzero⟩ | ⟨places, n, htext, hpos, hnine, hn, hnanos⟩
  · refine ⟨none, ?_, by rw [hzero]; rfl⟩
    obtain ⟨hdot, hcomma⟩ := (isSign_ite (m.offset < 0)).ne_point
    rw [htext, List.nil_append] at hfield ⊢
    rw [scanSecond?, hfield]
    simp [offsetText, hdot, hcomma]
  · refine ⟨some (padded places n), ?_, ?_⟩
    · have hfraction := digitField?_padded hpos hpos hnine hn (endsRun_offsetText m.offset)
      rw [htext] at hfield ⊢
      rw [scanSecond?, hfield]
      simp [hfraction]
    · have hlength := length_padded hpos hn
      rw [Option.elim_some, fractionNanos?_of_le (natOfDigits?_padded places n) (by omega), hlength,
        hnanos]

/-! ## Times of day -/

/-- Before a leap second the second is written as it is. -/
theorem writtenSecond_of_lt {t : ClockTime} (h : t.nanos < 1000000000) :
    t.writtenSecond = t.second ∧ t.nanos % 1000000000 = t.nanos := by
  rw [ClockTime.writtenSecond]
  omega

/-- A leap second is written as second 60. -/
theorem writtenSecond_of_le {t : ClockTime} (ht : t.Expressible) (h : 1000000000 ≤ t.nanos) :
    t.writtenSecond = 60 ∧ 1000000000 + t.nanos % 1000000000 = t.nanos := by
  have hlast : t.second = 59 := ht h
  have := t.inRange
  rw [ClockTime.writtenSecond]
  omega

/-- A reader without leap seconds gives the time back unless it is one. -/
theorem ofFields?_written {t : ClockTime} (h : t.Expressible) :
    ClockTime.ofFields? t.hour t.minute t.writtenSecond (t.nanos % 1000000000) =
      if t.nanos < 1000000000 then some t else none := by
  split
  · next hnanos =>
    obtain ⟨hsecond, hmod⟩ := writtenSecond_of_lt hnanos
    obtain ⟨hhour, hminute, hsixty, -⟩ := t.inRange
    rw [hsecond, hmod, ClockTime.ofFields?, dif_pos ⟨hhour, hminute, hsixty, hnanos⟩]
  · next hleap =>
    obtain ⟨hsecond, -⟩ := writtenSecond_of_le h (Nat.le_of_not_lt hleap)
    rw [hsecond]
    exact dif_neg (by omega)

/-- A reader with leap seconds gives every time back. -/
theorem ofFieldsWithLeap?_written {t : ClockTime} (h : t.Expressible) :
    ClockTime.ofFieldsWithLeap? t.hour t.minute t.writtenSecond (t.nanos % 1000000000) =
      some t := by
  rcases Nat.lt_or_ge t.nanos 1000000000 with hnanos | hleap
  · have hsixty : t.writtenSecond ≠ 60 := by
      have := t.inRange
      rw [(writtenSecond_of_lt hnanos).1]
      omega
    rw [ClockTime.ofFieldsWithLeap?, if_neg hsixty, ofFields?_written h, if_pos hnanos]
  · obtain ⟨hsecond, hsum⟩ := writtenSecond_of_le h hleap
    obtain ⟨hhour, hminute, -, -⟩ := t.inRange
    rw [hsecond, ClockTime.ofFieldsWithLeap?, if_pos rfl, dif_pos ⟨hhour, hminute, by omega⟩]
    exact congrArg some (ClockTime.ext rfl rfl (h hleap).symm hsum)

/-! ## Offsets -/

/-- A written offset as the scanner of numeric dates cuts it out. -/
def offsetForm (o : Int) : OffsetForm :=
  .colon (decide (o < 0)) (padded 2 (o.natAbs / 3600)) (padded 2 (o.natAbs / 60 % 60))

/-- The hours and minutes of an offset give it back. -/
theorem hoursMinutes_eq {o : Int} (h : o % 60 = 0) :
    (if o < 0 then
        -(((o.natAbs / 3600 : Nat) : Int) * 3600 + ((o.natAbs / 60 % 60 : Nat) : Int) * 60)
      else ((o.natAbs / 3600 : Nat) : Int) * 3600 + ((o.natAbs / 60 % 60 : Nat) : Int) * 60) =
      o := by
  split <;> omega

theorem trimLeft_offsetText (o : Int) : trimLeft (offsetText o) = offsetText o :=
  trimLeft_cons _ (isSign_ite _).isBlank_eq_false

theorem scanOffsetDigits?_offsetText {drop? : List Char → Option (List Char)} {typographic : Bool}
    {o : Int} (hdrop : ∀ n, drop? (':' :: padded 2 n) = some (padded 2 n)) (hminutes : o % 60 = 0)
    (hlow : -secondsPerDay < o) (hhigh : o < secondsPerDay) :
    scanOffsetDigits? drop? typographic (offsetText o) = some (o, []) := by
  rw [secondsPerDay] at hlow hhigh
  have hhours (cs : List Char) : scanNumber? 2 2 (padded 2 (o.natAbs / 3600) ++ ':' :: cs) =
      some (o.natAbs / 3600, ':' :: cs) :=
    scanNumber?_two (Nat.le_refl 2) (by omega) (endsRun_colon cs)
  have hmins : scanNumber? 2 2 (padded 2 (o.natAbs / 60 % 60)) = some (o.natAbs / 60 % 60, []) := by
    have := @scanNumber?_two 2 (o.natAbs / 60 % 60) [] (Nat.le_refl 2) (by omega) endsRun_nil
    rwa [List.append_nil] at this
  have hsixty : o.natAbs / 60 % 60 < 60 := by omega
  have heq := hoursMinutes_eq hminutes
  have hplus : '+' ≠ typographicMinus := by decide
  rw [offsetText, scanOffsetDigits?]
  by_cases hneg : o < 0
  · rw [if_pos hneg] at heq ⊢
    simpa [hhours, hdrop, hmins, hsixty] using heq
  · rw [if_neg hneg] at heq ⊢
    simpa [hhours, hdrop, hmins, hsixty, hplus] using heq

theorem dropLiteral?_self (c : Char) (cs : List Char) : dropLiteral? c (c :: cs) = some cs := by
  simp [dropLiteral?]

theorem dropOffsetSeparator?_colon (n : Nat) :
    dropOffsetSeparator? (':' :: padded 2 n) = some (padded 2 n) := by
  obtain ⟨d, ds, hds, hd⟩ := exists_cons_padded 2 n
  have hcolon : d ≠ ':' := by
    rintro rfl
    exact absurd hd (by decide)
  rw [dropOffsetSeparator?, hds]
  simp [hcolon, isBlank_of_isAsciiDigit hd]

theorem scanTimestampOffset?_offsetText {o : Int} (hminutes : o % 60 = 0)
    (hlow : -secondsPerDay < o) (hhigh : o < secondsPerDay) :
    scanTimestampOffset? (offsetText o) = some (o, []) := by
  have hscan : scanOffsetDigits? (dropLiteral? ':') true (offsetText o) = some (o, []) :=
    scanOffsetDigits?_offsetText (fun _ => dropLiteral?_self ':' _) hminutes hlow hhigh
  -- Below a day, a whole number of minutes is at most 23 hours and 59 of them.
  have hrange : -maxTimestampOffset ≤ o ∧ o ≤ maxTimestampOffset := by
    rw [secondsPerDay] at hlow hhigh
    rw [maxTimestampOffset]
    omega
  have hfilter : scanTimestampOffset? (offsetText o) =
      (scanOffsetDigits? (dropLiteral? ':') true (offsetText o)).filter fun p =>
        -maxTimestampOffset ≤ p.1 && p.1 ≤ maxTimestampOffset := by
    by_cases hneg : o < 0 <;> simp [scanTimestampOffset?, offsetText, hneg]
  rw [hfilter, hscan]
  simp [hrange.1, hrange.2]

theorem scanOffset?_colon {sign : Char} {cs hours minutes rest blanks : List Char}
    (hsign : IsSign sign) (hhours : takeDigits 4 cs = (hours, ':' :: rest)) (hne : hours ≠ [])
    (htwo : hours.length ≤ 2) (hminutes : digitField? 2 2 rest = some (minutes, blanks))
    (hblanks : isAllBlank blanks = true) :
    scanOffset? (sign :: cs) = some (some (.colon (sign == '-') hours minutes)) := by
  have hletter : (sign == 'Z' || sign == 'z') = false := by rcases hsign with rfl | rfl <;> rfl
  have hmark : (sign == '+' || sign == '-') = true := by rcases hsign with rfl | rfl <;> rfl
  have hempty : hours.isEmpty = false := List.isEmpty_eq_false_iff.mpr hne
  simp only [scanOffset?, hletter, hmark, hhours, hempty, htwo, hminutes, Bool.false_eq_true,
    if_true, if_false, Option.bind_eq_bind, Option.bind_some]
  exact if_pos hblanks

theorem scanOffset?_offsetText {o : Int} (hlow : -secondsPerDay < o) (hhigh : o < secondsPerDay) :
    scanOffset? (offsetText o) = some (some (offsetForm o)) := by
  rw [secondsPerDay] at hlow hhigh
  have hlt : o.natAbs / 3600 < 100 := by omega
  have hlength : (padded 2 (o.natAbs / 3600)).length = 2 := length_padded (by decide) hlt
  have hhours : takeDigits 4 (padded 2 (o.natAbs / 3600) ++ ':' :: padded 2 (o.natAbs / 60 % 60)) =
      (padded 2 (o.natAbs / 3600), ':' :: padded 2 (o.natAbs / 60 % 60)) :=
    takeDigits_run (all_isAsciiDigit_padded _ _) (by omega) (endsRun_colon _)
  have hminutes : digitField? 2 2 (padded 2 (o.natAbs / 60 % 60)) =
      some (padded 2 (o.natAbs / 60 % 60), []) := by
    have := @digitField?_two 2 2 (o.natAbs / 60 % 60) [] (Nat.le_refl 2) (Nat.le_refl 2) (by omega)
      endsRun_nil
    rwa [List.append_nil] at this
  have hminus : ((if o < 0 then '-' else '+') == '-') = decide (o < 0) := by
    by_cases hneg : o < 0
    · rw [if_pos hneg, decide_eq_true hneg]
      rfl
    · rw [if_neg hneg, decide_eq_false hneg]
      rfl
  rw [offsetText, scanOffset?_colon (isSign_ite _) hhours (padded_ne_nil _ _) (by omega) hminutes
    rfl, hminus, offsetForm]

/-- In a numeric date an offset is read back if it has no more hours than
are allowed there. -/
theorem seconds?_offsetForm {o : Int} (hminutes : o % 60 = 0) :
    (offsetForm o).seconds? =
      .ok (if o.natAbs / 3600 ≤ maxOffsetHours then some o else none) := by
  have hsixty : o.natAbs / 60 % 60 ≤ 59 := by omega
  have heq := hoursMinutes_eq hminutes
  simp only [offsetForm, OffsetForm.seconds?, offsetSeconds?, natOfDigits?_padded,
    Option.bind_eq_bind, Option.bind_some, hsixty, decide_true, Bool.and_true, decide_eq_true_eq,
    heq]
  rfl

end Calendar

end RecordSieve
