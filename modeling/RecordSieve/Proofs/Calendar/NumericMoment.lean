/-
RecordSieve.Proofs.Calendar.NumericMoment — which moment a numeric date
stands for.

The fields of the form are given their meaning one by one: the date in
the order of the locale (`NumericForm.Reads`), the time of day
(`TimeForm.Shows`) and the offset (`OffsetForm.Shows`).  What is read is
the moment that the form denotes in this sense, whatever digits it is
written in (`readNumeric?_eq_ok_iff`).

A form denotes a moment if each of its numbers is in its range
(`NumericForm.InRange`); no instant of a year of four digits is too far
away.  A form out of range is passed on, and for that the digits have to
be ASCII: others can make the reading break off.
-/
import RecordSieve.Proofs.Calendar.DayCount
import RecordSieve.Proofs.Calendar.FieldOrder
import RecordSieve.Proofs.Calendar.NumericText
import RecordSieve.Proofs.Calendar.OffsetCut

namespace RecordSieve

open RecordSieve.Text RecordSieve.Decimal RecordSieve.Calendar

theorem ClockTime.ofFields?_eq_some_iff {hour minute second nanos : Nat} {t : ClockTime} :
    ofFields? hour minute second nanos = some t ↔
      (t.hour = hour ∧ t.minute = minute ∧ t.second = second ∧ t.nanos = nanos) ∧
        nanos < 1000000000 := by
  constructor
  · intro h
    rw [ofFields?] at h
    split at h
    · next hrange =>
      cases h
      exact ⟨⟨rfl, rfl, rfl, rfl⟩, hrange.2.2.2⟩
    · cases h
  · rintro ⟨⟨rfl, rfl, rfl, rfl⟩, hnanos⟩
    obtain ⟨hhour, hminute, hsecond, -⟩ := t.inRange
    exact dif_pos ⟨hhour, hminute, hsecond, hnanos⟩

namespace Calendar

/-! ## What the fields stand for -/

/-- The hour of the day of a written hour.  With a half of the day, twelve
is the first hour of that half. -/
def IsHour (half : Option DayHalf) (written hour : Nat) : Prop :=
  match half with
  | none => hour = written
  | some .am => 1 ≤ written ∧ written ≤ 12 ∧ hour = if written = 12 then 0 else written
  | some .pm => 1 ≤ written ∧ written ≤ 12 ∧ hour = if written = 12 then 12 else written + 12

/-- The time of day of a time part: seconds that are not written are zero,
and a fraction of `k` digits counts units of 10⁻ᵏ seconds. -/
structure TimeForm.Shows (t : TimeForm) (time : ClockTime) : Prop where
  hour : ∃ n, natOfDigits? t.hour = some n ∧ IsHour t.half n time.hour
  minute : natOfDigits? t.minute = some time.minute
  second : t.second.elim (time.second = 0) fun ds => natOfDigits? ds = some time.second
  fraction : t.fraction.elim (time.nanos = 0) fun ds =>
    ∃ n, natOfDigits? ds = some n ∧ time.nanos * tenTo ds.length = n * 1000000000

/-- The sign, hours and minutes that are written in an offset: without a
colon one or two digits are hours, and the last two of more are minutes. -/
inductive OffsetForm.Writes : OffsetForm → Bool → Nat → Nat → Prop
  | utc : Writes .utc false 0 0
  | hours {negative : Bool} {hs : List Char} {h : Nat} (hours : natOfDigits? hs = some h)
      (short : hs.length ≤ 2) : Writes (.plain negative hs) negative h 0
  | plain {negative : Bool} {hs ms : List Char} {h m : Nat} (hours : natOfDigits? hs = some h)
      (minutes : natOfDigits? ms = some m) (two : ms.length = 2) :
      Writes (.plain negative (hs ++ ms)) negative h m
  | colon {negative : Bool} {hs ms : List Char} {h m : Nat} (hours : natOfDigits? hs = some h)
      (minutes : natOfDigits? ms = some m) : Writes (.colon negative hs ms) negative h m

/-- The seconds east of UTC of hours and minutes on either side of it. -/
def offsetOf (negative : Bool) (hours minutes : Nat) : Int :=
  if negative then -((hours : Int) * 3600 + minutes * 60) else hours * 3600 + minutes * 60

/-- The hours and minutes of an offset are in the range of a numeric date. -/
def OffsetForm.InRange (offset : OffsetForm) : Prop :=
  ∃ negative hours minutes, offset.Writes negative hours minutes ∧ hours ≤ 14 ∧ minutes ≤ 59

/-- The offset is in range, and these are its seconds east of UTC. -/
def OffsetForm.Shows (offset : OffsetForm) (seconds : Int) : Prop :=
  ∃ negative hours minutes, offset.Writes negative hours minutes ∧ (hours ≤ 14 ∧ minutes ≤ 59) ∧
    seconds = offsetOf negative hours minutes

namespace NumericForm

/-- The offset of the form, if it has one. -/
def offset (form : NumericForm) : Option OffsetForm := form.time.bind TimeForm.offset

/-- The moment that the form stands for in an order of its fields: at
midnight if it has no time, and in UTC if it has no offset. -/
structure Denotes (form : NumericForm) (order : DateOrder) (m : Moment) : Prop where
  date : form.Reads order m.date
  time : form.time.elim (m.time = .midnight) fun t => t.Shows m.time
  offset : form.offset.elim (m.offset = 0) fun offset => offset.Shows m.offset

end NumericForm

/-- The hour, minute and second are in range. -/
structure TimeForm.InRange (t : TimeForm) : Prop where
  hour : ∃ n, natOfDigits? t.hour = some n ∧ if t.half.isSome then 1 ≤ n ∧ n ≤ 12 else n ≤ 23
  minute : ∃ n, natOfDigits? t.minute = some n ∧ n ≤ 59
  second : ∀ ds, t.second = some ds → ∃ n, natOfDigits? ds = some n ∧ n ≤ 59

/-- The three numbers are a real date in an order of the fields, and the
numbers of the time and the offset, if there are any, are in range. -/
structure NumericForm.InRange (form : NumericForm) (order : DateOrder) : Prop where
  date : ∃ d, form.Reads order d
  time : ∀ t, form.time = some t → t.InRange
  offset : ∀ offset, form.offset = some offset → offset.InRange

/-! ## Times of day -/

theorem elim_hourOfHalf?_eq_some_iff {half : Option DayHalf} {written hour : Nat} :
    half.elim (some written) (hourOfHalf? · written) = some hour ↔ IsHour half written hour := by
  rcases half with _ | half
  · simp [IsHour, eq_comm]
  · cases half <;> simp only [Option.elim_some, hourOfHalf?.eq_def, IsHour, Bool.and_eq_true,
      decide_eq_true_eq, Option.ite_none_right_eq_some, Option.some.injEq] <;> split <;> omega

/-- A half of the day has the hours from one to twelve. -/
theorem exists_isHour_iff {half : Option DayHalf} {written : Nat} :
    (∃ hour < 24, IsHour half written hour) ↔
      if half.isSome then 1 ≤ written ∧ written ≤ 12 else written ≤ 23 := by
  rcases half with _ | _ | _
  · constructor
    · rintro ⟨hour, hlt, rfl⟩
      exact Nat.le_of_lt_succ hlt
    · intro h
      exact ⟨written, Nat.lt_succ_of_le h, rfl⟩
  all_goals
    constructor
    · rintro ⟨hour, -, hlow, hhigh, -⟩
      exact ⟨hlow, hhigh⟩
    · rintro ⟨hlow, hhigh⟩
      refine ⟨_, ?_, hlow, hhigh, rfl⟩
      split <;> omega

theorem elim_second_eq_some_iff {field : Option (List Char)} {second : Nat} :
    field.elim (some 0) natOfDigits? = some second ↔
      field.elim (second = 0) fun ds => natOfDigits? ds = some second := by
  cases field <;> simp [eq_comm]

/-- Nanoseconds of a fraction of `k` digits are units of 10⁻ᵏ seconds. -/
theorem fractionNanos?_eq_some_iff {ds : List Char} {nanos : Nat} (hlength : ds.length ≤ 9) :
    fractionNanos? 9 ds = some nanos ↔
      ∃ n, natOfDigits? ds = some n ∧ nanos * tenTo ds.length = n * 1000000000 := by
  have hnine : tenTo (9 - ds.length) * tenTo ds.length = 1000000000 := by
    have hsum : 9 - ds.length + ds.length = 9 := Nat.sub_add_cancel hlength
    calc tenTo (9 - ds.length) * tenTo ds.length
        = tenTo (9 - ds.length + ds.length) := (Nat.pow_add ..).symm
      _ = tenTo 9 := by rw [hsum]
  rw [fractionNanos?_eq, if_pos hlength, Option.map_eq_some_iff]
  refine exists_congr fun n => and_congr_right fun _ => ?_
  rw [← hnine, ← Nat.mul_assoc, Nat.mul_left_inj (Nat.ne_of_gt (tenTo_pos _)), eq_comm]

theorem elim_fraction_eq_some_iff {field : Option (List Char)} {nanos : Nat}
    (hlength : ∀ ds, field = some ds → ds.length ≤ 9) :
    field.elim (some 0) (fractionNanos? 9) = some nanos ↔
      field.elim (nanos = 0) fun ds =>
        ∃ n, natOfDigits? ds = some n ∧ nanos * tenTo ds.length = n * 1000000000 := by
  cases field with
  | none => simp [eq_comm]
  | some ds => exact fractionNanos?_eq_some_iff (hlength ds rfl)

theorem TimeForm.clockTime?_eq_some_iff {t : TimeForm} {time : ClockTime}
    (hlength : ∀ ds, t.fraction = some ds → ds.length ≤ 9) :
    t.clockTime? = some time ↔ t.Shows time := by
  constructor
  · intro h
    obtain ⟨written, hwritten, h⟩ := Option.bind_eq_some_iff.mp h
    obtain ⟨minute, hminute, h⟩ := Option.bind_eq_some_iff.mp h
    obtain ⟨second, hsecond, h⟩ := Option.bind_eq_some_iff.mp h
    obtain ⟨nanos, hnanos, h⟩ := Option.bind_eq_some_iff.mp h
    obtain ⟨hour, hhour, h⟩ := Option.bind_eq_some_iff.mp h
    obtain ⟨⟨rfl, rfl, rfl, rfl⟩, -⟩ := ClockTime.ofFields?_eq_some_iff.mp h
    exact ⟨⟨written, hwritten, elim_hourOfHalf?_eq_some_iff.mp hhour⟩, hminute,
      elim_second_eq_some_iff.mp hsecond, (elim_fraction_eq_some_iff hlength).mp hnanos⟩
  · rintro ⟨⟨written, hwritten, hhour⟩, hminute, hsecond, hfraction⟩
    have hnanos := (elim_fraction_eq_some_iff hlength).mpr hfraction
    have hlt : time.nanos < 1000000000 := by
      cases hfield : t.fraction with
      | none =>
        rw [hfield] at hfraction
        have hzero : time.nanos = 0 := hfraction
        omega
      | some ds =>
        rw [hfield] at hnanos
        exact fractionNanos?_lt (Nat.le_refl 9) hnanos
    refine Option.bind_eq_some_iff.mpr ⟨written, hwritten, ?_⟩
    refine Option.bind_eq_some_iff.mpr ⟨_, hminute, ?_⟩
    refine Option.bind_eq_some_iff.mpr ⟨_, elim_second_eq_some_iff.mpr hsecond, ?_⟩
    refine Option.bind_eq_some_iff.mpr ⟨_, hnanos, ?_⟩
    refine Option.bind_eq_some_iff.mpr ⟨_, elim_hourOfHalf?_eq_some_iff.mpr hhour, ?_⟩
    exact ClockTime.ofFields?_eq_some_iff.mpr ⟨⟨rfl, rfl, rfl, rfl⟩, hlt⟩

/-! ## Offsets -/

theorem offsetSeconds?_eq_some_iff {negative : Bool} {hs ms : List Char} {seconds : Int} :
    offsetSeconds? negative hs ms = some seconds ↔ ∃ h m, natOfDigits? hs = some h ∧
      natOfDigits? ms = some m ∧ (h ≤ 14 ∧ m ≤ 59) ∧ seconds = offsetOf negative h m := by
  simp only [offsetSeconds?, Option.bind_eq_bind, Option.bind_eq_some_iff,
    Bool.and_eq_true, decide_eq_true_eq, Option.ite_none_right_eq_some, Option.pure_def,
    Option.some.injEq]
  constructor
  · rintro ⟨h, hh, m, hm, hrange, rfl⟩
    exact ⟨h, m, hh, hm, hrange, rfl⟩
  · rintro ⟨h, m, hh, hm, hrange, rfl⟩
    exact ⟨h, hh, m, hm, hrange, rfl⟩

theorem OffsetForm.writes_plain_iff {negative negative' : Bool} {ds : List Char} {h m : Nat} :
    (plain negative ds).Writes negative' h m ↔ negative' = negative ∧
      ((ds.length ≤ 2 ∧ natOfDigits? ds = some h ∧ m = 0) ∨
        ∃ hs ms, ds = hs ++ ms ∧ ms.length = 2 ∧ natOfDigits? hs = some h ∧
          natOfDigits? ms = some m) := by
  constructor
  · intro hwrites
    cases hwrites with
    | hours hours short => exact ⟨rfl, .inl ⟨short, hours, rfl⟩⟩
    | plain hours minutes two => exact ⟨rfl, .inr ⟨_, _, rfl, two, hours, minutes⟩⟩
  · rintro ⟨rfl, ⟨short, hours, rfl⟩ | ⟨hs, ms, rfl, two, hours, minutes⟩⟩
    · exact .hours hours short
    · exact .plain hours minutes two

/-- The digits of an offset without a colon are read as they are cut. -/
theorem OffsetForm.seconds?_plain_eq_ok_iff {negative : Bool} {ds : List Char} {seconds : Int} :
    (plain negative ds).seconds? = .ok (some seconds) ↔
      (ds.length ≤ 2 ∧ offsetSeconds? negative ds ['0'] = some seconds) ∨
        ∃ hs ms, ds = hs ++ ms ∧ ms.length = 2 ∧ offsetSeconds? negative hs ms = some seconds := by
  have hone {hs ms : List Char} (h : offsetSeconds? negative hs ms = some seconds) :
      hs ≠ [] ∧ OneByte hs ∧ OneByte ms := by
    obtain ⟨h, m, hh, hm, -⟩ := offsetSeconds?_eq_some_iff.mp h
    exact ⟨(natOfDigits?_eq_some hh).1, oneByte_of_natOfDigits? hh, oneByte_of_natOfDigits? hm⟩
  rw [seconds?]
  constructor
  · intro h
    split at h
    · next hsmall =>
      have hs := Except.ok.inj h
      rw [byteLength_of_oneByte (hone hs).2.1] at hsmall
      exact .inl ⟨hsmall, hs⟩
    · split at h
      · next hs ms hcut =>
        have hseconds := Except.ok.inj h
        refine .inr ⟨hs, ms, (append_of_cutTwoBytes? hcut).symm, ?_, hseconds⟩
        rw [← byteLength_of_oneByte (hone hseconds).2.2]
        exact byteLength_of_cutTwoBytes? hcut
      · cases h
  · rintro (⟨hshort, h⟩ | ⟨hs, ms, rfl, htwo, h⟩)
    · rw [if_pos (by rwa [byteLength_of_oneByte (hone h).2.1]), h]
    · obtain ⟨hne, hhs, hms⟩ := hone h
      have hlength : ¬ byteLength (hs ++ ms) ≤ 2 := by
        have := List.length_pos_iff.mpr hne
        rw [byteLength_of_oneByte (OneByte.append hhs hms), List.length_append]
        omega
      rw [if_neg hlength, cutTwoBytes?_append hms htwo]
      exact congrArg Except.ok h

theorem OffsetForm.seconds?_eq_ok_iff {offset : OffsetForm} {seconds : Int} :
    offset.seconds? = .ok (some seconds) ↔ offset.Shows seconds := by
  cases offset with
  | utc =>
    constructor
    · intro h
      cases h
      exact ⟨false, 0, 0, .utc, by decide, rfl⟩
    · rintro ⟨negative, h, m, hwrites, -, rfl⟩
      cases hwrites
      rfl
  | colon negative hs ms =>
    rw [seconds?, Except.ok.injEq, offsetSeconds?_eq_some_iff]
    constructor
    · rintro ⟨h, m, hh, hm, hrange, hseconds⟩
      exact ⟨negative, h, m, .colon hh hm, hrange, hseconds⟩
    · rintro ⟨negative', h, m, hwrites, hrange, hseconds⟩
      cases hwrites with
      | colon hours minutes => exact ⟨h, m, hours, minutes, hrange, hseconds⟩
  | plain negative ds =>
    have hzero : natOfDigits? ['0'] = some 0 := by decide
    rw [seconds?_plain_eq_ok_iff]
    simp only [Shows, writes_plain_iff, offsetSeconds?_eq_some_iff]
    constructor
    · rintro (⟨short, h, m, hh, hm, hrange, hs⟩ | ⟨hs, ms, rfl, two, h, m, hh, hm, hrange, hseconds⟩)
      · obtain rfl : 0 = m := Option.some.inj (hzero.symm.trans hm)
        exact ⟨negative, h, 0, ⟨rfl, .inl ⟨short, hh, rfl⟩⟩, hrange, hs⟩
      · exact ⟨negative, h, m, ⟨rfl, .inr ⟨hs, ms, rfl, two, hh, hm⟩⟩, hrange, hseconds⟩
    · rintro ⟨_, h, m, ⟨rfl, ⟨short, hh, rfl⟩ | ⟨hs, ms, rfl, two, hh, hm⟩⟩, hrange, hseconds⟩
      · exact .inl ⟨short, h, 0, hh, hzero, hrange, hseconds⟩
      · exact .inr ⟨hs, ms, rfl, two, h, m, hh, hm, hrange, hseconds⟩

/-! ## Numeric dates -/

section

variable {form : NumericForm} {order : DateOrder} {cs : List Char} {m : Moment}

namespace NumericForm

theorem IsText.clockTime?_eq_some_iff (h : form.IsText cs) {time : ClockTime} :
    form.clockTime? = some time ↔ form.time.elim (time = .midnight) fun t => t.Shows time := by
  rw [clockTime?]
  cases htime : form.time with
  | none => simp [eq_comm]
  | some t => exact t.clockTime?_eq_some_iff fun ds hds => (h.fraction t htime ds hds).1.le_most

theorem offset?_eq_ok_iff {seconds : Int} :
    form.offset? = .ok (some seconds) ↔
      form.offset.elim (seconds = 0) fun offset => offset.Shows seconds := by
  unfold offset? offset
  cases form.time.bind TimeForm.offset with
  | none => simp [eq_comm]
  | some offset => exact OffsetForm.seconds?_eq_ok_iff

/-- A numeric date is read as the moment that it denotes. -/
theorem IsText.readNumeric?_eq_ok_iff (h : form.IsText cs) :
    readNumeric? order cs = .ok (some m) ↔ form.Denotes order m := by
  rw [readNumeric?, h.scan?_eq]
  dsimp only
  rw [moment?_eq_ok_iff, date?_eq_some_iff, h.clockTime?_eq_some_iff, offset?_eq_ok_iff]
  constructor
  · rintro ⟨hdate, htime, hoffset⟩
    exact ⟨hdate, htime, hoffset⟩
  · rintro ⟨hdate, htime, hoffset⟩
    exact ⟨hdate, htime, hoffset⟩

end NumericForm

/-! ## Forms in range -/

/-- A time of day is shown by the fields that are in range. -/
theorem TimeForm.exists_shows_iff {t : TimeForm}
    (hfraction : ∀ ds, t.fraction = some ds → ds.length ≤ 9 ∧ ∃ n, natOfDigits? ds = some n) :
    (∃ time, t.Shows time) ↔ t.InRange := by
  constructor
  · rintro ⟨time, ⟨n, hn, hhour⟩, hminute, hsecond, -⟩
    obtain ⟨hhourRange, hminuteRange, hsecondRange, -⟩ := time.inRange
    refine ⟨⟨n, hn, exists_isHour_iff.mp ⟨_, hhourRange, hhour⟩⟩,
      ⟨_, hminute, Nat.le_of_lt_succ hminuteRange⟩, fun ds hds => ?_⟩
    rw [hds] at hsecond
    exact ⟨_, hsecond, Nat.le_of_lt_succ hsecondRange⟩
  · rintro ⟨⟨n, hn, hhour⟩, ⟨minute, hminute, hminuteRange⟩, hsecond⟩
    obtain ⟨hour, hhourRange, hhour⟩ := exists_isHour_iff.mpr hhour
    obtain ⟨second, hsecond, hsecondRange⟩ : ∃ second,
        (t.second.elim (second = 0) fun ds => natOfDigits? ds = some second) ∧ second ≤ 59 := by
      cases hfield : t.second with
      | none => exact ⟨0, rfl, by decide⟩
      | some ds => exact hsecond ds hfield
    obtain ⟨nanos, hfraction, hnanosRange⟩ : ∃ nanos, (t.fraction.elim (nanos = 0) fun ds =>
        ∃ n, natOfDigits? ds = some n ∧ nanos * tenTo ds.length = n * 1000000000) ∧
        nanos < 1000000000 := by
      cases hfield : t.fraction with
      | none => exact ⟨0, rfl, by decide⟩
      | some ds =>
        obtain ⟨hlength, n, hn⟩ := hfraction ds hfield
        have hnanos := fractionNanos?_of_le hn hlength
        exact ⟨_, (fractionNanos?_eq_some_iff hlength).mp hnanos,
          fractionNanos?_lt (Nat.le_refl 9) hnanos⟩
    exact ⟨⟨hour, minute, second, nanos, by omega⟩, ⟨n, hn, hhour⟩, hminute, hsecond, hfraction⟩

theorem OffsetForm.exists_shows_iff {offset : OffsetForm} :
    (∃ seconds, offset.Shows seconds) ↔ offset.InRange := by
  constructor
  · rintro ⟨_, negative, h, m, hwrites, hrange, -⟩
    exact ⟨negative, h, m, hwrites, hrange⟩
  · rintro ⟨negative, h, m, hwrites, hrange⟩
    exact ⟨_, negative, h, m, hwrites, hrange, rfl⟩

theorem natAbs_offsetOf (negative : Bool) (hours minutes : Nat) :
    (offsetOf negative hours minutes).natAbs = hours * 3600 + minutes * 60 := by
  cases negative <;> simp only [offsetOf] <;> simp <;> omega

theorem NumericForm.Reads.year_bounds {d : Date} (h : form.Reads order d)
    (ha : form.a.length ≤ 4) (hc : form.c.length ≤ 4) : 0 ≤ d.year ∧ d.year ≤ 9999 := by
  have hyear {ds : List Char} (hlength : ds.length ≤ 4) (hds : IsYear ds d.year) :
      0 ≤ d.year ∧ d.year ≤ 9999 := by
    have := yearField?_bounds hlength (yearField?_eq_some_iff.mpr hds)
    omega
  unfold Reads at h
  split at h
  · next hfour =>
    obtain ⟨n, hn, hdate⟩ := h.year
    refine hyear ha ⟨n, hn, ?_⟩
    rwa [if_neg (by omega)]
  · cases order with
    | monthDayYear | dayMonthYear => exact hyear hc h.2.2
    | yearMonthDay => exact hyear ha h.1

/-- A form denotes a moment if its numbers are in range. -/
theorem NumericForm.IsText.exists_denotes_iff (h : form.IsText cs)
    (hascii : ∀ c ∈ cs, c.toNat < 128) :
    (∃ m, form.Denotes order m) ↔ form.InRange order := by
  have hfraction : ∀ t, form.time = some t → ∀ ds, t.fraction = some ds →
      ds.length ≤ 9 ∧ ∃ n, natOfDigits? ds = some n := by
    intro t ht ds hds
    obtain ⟨digits, hsubset⟩ := h.fraction t ht ds hds
    exact ⟨digits.le_most, exists_natOfDigits? (digits.isField Nat.zero_lt_one).ne_nil fun d hd =>
      isAsciiDigit_of_ascii (digits.digits d hd) (hascii d (hsubset hd))⟩
  constructor
  · rintro ⟨m, hdate, htime, hoffset⟩
    refine ⟨⟨_, hdate⟩, fun t ht => ?_, fun offset ho => ?_⟩
    · rw [ht] at htime
      exact (TimeForm.exists_shows_iff (hfraction t ht)).mp ⟨_, htime⟩
    · rw [ho] at hoffset
      exact OffsetForm.exists_shows_iff.mp ⟨_, hoffset⟩
  · rintro ⟨⟨d, hdate⟩, htime, hoffset⟩
    obtain ⟨time, htime⟩ : ∃ time, form.time.elim (time = .midnight) fun t => t.Shows time := by
      cases hfield : form.time with
      | none => exact ⟨_, rfl⟩
      | some t => exact (TimeForm.exists_shows_iff (hfraction t hfield)).mpr (htime t hfield)
    obtain ⟨seconds, hoffset, hlow, hhigh⟩ : ∃ seconds,
        (form.offset.elim (seconds = 0) fun offset => offset.Shows seconds) ∧
        -secondsPerDay < seconds ∧ seconds < secondsPerDay := by
      cases hfield : form.offset with
      | none => exact ⟨0, rfl, by decide⟩
      | some offset =>
        obtain ⟨negative, hours, minutes, hwrites, hrange⟩ := hoffset offset hfield
        have hsize := natAbs_offsetOf negative hours minutes
        refine ⟨_, ⟨negative, hours, minutes, hwrites, hrange, rfl⟩, ?_⟩
        simp only [secondsPerDay]
        omega
    have hyear := hdate.year_bounds (scan?_cut h.scan?_eq).a (scan?_cut h.scan?_eq).c
    obtain ⟨m, hm⟩ := Moment.exists_ofLocal? time hyear hlow hhigh
    obtain ⟨rfl, rfl, rfl⟩ := Moment.ofLocal?_eq_some_iff.mp hm
    exact ⟨m, hdate, htime, hoffset⟩

/-- Reading an ASCII text does not break off. -/
theorem readNumeric?_ne_error (hascii : ∀ c ∈ cs, c.toNat < 128) (abort : Abort) :
    readNumeric? order cs ≠ .error abort := by
  intro h
  obtain ⟨c, hc, -, hwide⟩ := exists_wide_of_cutsOffset (readNumeric?_eq_error_iff.mp h)
  rw [utf8Size_of_ascii (hascii c hc)] at hwide
  exact absurd hwide (by decide)

/-- An ASCII text in the numeric form is read exactly if its numbers are
in range, and as the moment that they denote.  The instant of that moment
is the number of days since 1970 and the time of day in seconds, less the
offset. -/
theorem numericDate_denotes (locale : Locale) (cs : List Char) (form : NumericForm)
    (hform : form.IsText cs) (hascii : ∀ c ∈ cs, c.toNat < 128) :
    ((∃ m, readNumeric? locale.dateOrder cs = .ok (some m)) ↔ form.InRange locale.dateOrder) ∧
    (¬ form.InRange locale.dateOrder → readNumeric? locale.dateOrder cs = .ok none) ∧
    (∀ m, readNumeric? locale.dateOrder cs = .ok (some m) ↔ form.Denotes locale.dateOrder m) ∧
    (∀ m, readNumeric? locale.dateOrder cs = .ok (some m) →
      ∃ days, m.date.IsDay days ∧ m.nanos = m.time.nanos ∧
        m.seconds = ((days * 24 + m.time.hour) * 60 + m.time.minute) * 60 + m.time.second
          - m.offset) := by
  have hrange : (∃ m, readNumeric? locale.dateOrder cs = .ok (some m)) ↔
      form.InRange locale.dateOrder :=
    (exists_congr fun m => hform.readNumeric?_eq_ok_iff).trans (hform.exists_denotes_iff hascii)
  refine ⟨hrange, fun hnot => ?_, fun m => hform.readNumeric?_eq_ok_iff, fun m _ => ?_⟩
  · rcases hread : readNumeric? locale.dateOrder cs with abort | _ | m
    · exact absurd hread (readNumeric?_ne_error hascii abort)
    · rfl
    · exact absurd (hrange.mp ⟨m, hread⟩) hnot
  · have hday : m.date.IsDay m.date.dayNumber := Date.isDay_iff.mpr rfl
    exact ⟨_, hday, rfl, Moment.seconds_of_isDay hday⟩

/-- A text with every part that a numeric date can have, and its time part. -/
def fullText : List Char := "31.12.99 12:59:59,5 am -1230".toList

def fullTime : TimeForm where
  hour := ['1', '2']
  minute := ['5', '9']
  second := some ['5', '9']
  fraction := some ['5']
  half := some .am
  offset := some (.plain true ['1', '2', '3', '0'])

/-- In UTC it is half a second before half past one in the afternoon. -/
theorem numericDate_denotes_fullText :
    NumericForm.IsText ⟨['3', '1'], ['1', '2'], ['9', '9'], some fullTime⟩ fullText ∧
    (∀ c ∈ fullText, c.toNat < 128) ∧
    ∃ m, readNumeric? (Locale.ofTag "de-DE").dateOrder fullText = .ok (some m) ∧
      m.offset = -45000 ∧ m.seconds = 946646999 ∧ m.nanos = 500000000 := by
  have hform : NumericForm.IsText ⟨['3', '1'], ['1', '2'], ['9', '9'], some fullTime⟩ fullText :=
    NumericForm.scan?_eq_some_iff.mp (by decide +kernel)
  have hascii : ∀ c ∈ fullText, c.toNat < 128 := by decide
  obtain ⟨-, -, hdenotes, -⟩ := numericDate_denotes (Locale.ofTag "de-DE") _ _ hform hascii
  have horder : (Locale.ofTag "de-DE").dateOrder = .dayMonthYear := by decide +kernel
  rw [horder] at hdenotes ⊢
  have hdate : NumericForm.Reads ⟨['3', '1'], ['1', '2'], ['9', '9'], some fullTime⟩ .dayMonthYear
      ⟨1999, 12, 31, by decide, by decide⟩ :=
    ⟨by decide, by decide, 99, by decide, by decide⟩
  have htime : fullTime.Shows ⟨0, 59, 59, 500000000, by decide⟩ :=
    ⟨⟨12, by decide, by decide, by decide, rfl⟩, by decide, rfl, 5, by decide, by decide⟩
  have hwrites : OffsetForm.Writes (.plain true (['1', '2'] ++ ['3', '0'])) true 12 30 :=
    .plain (by decide) (by decide) rfl
  exact ⟨hform, hascii, ⟨_, _, _, by decide, by decide⟩,
    (hdenotes _).mpr ⟨hdate, htime, true, 12, 30, hwrites, by decide, rfl⟩, rfl, by decide, rfl⟩

end

end Calendar

end RecordSieve
