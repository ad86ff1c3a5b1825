/-
RecordSieve.Proofs.Calendar.Expressible — the moments that reading gives.

A written moment has its offset in hours and minutes, and its leap
seconds as second 60.  So it says all there is of a moment whose offset
is a whole number of minutes and whose leap seconds come after second 59
(`Moment.Expressible`).  Every reader gives such moments only, whatever
the text and the locale (`expressible_of_read?`): the offset of each form
is made of hours and minutes, and the one step to a leap second is from
second 60.  For a template the invariant is kept item by item
(`Item.read?_expressible`) and so by the run over all items.
-/
import RecordSieve.Proofs.Calendar.FormParts

namespace RecordSieve

/-- Leap seconds come after second 59 only. -/
def ClockTime.Expressible (t : ClockTime) : Prop := 1000000000 ≤ t.nanos → t.second = 59

/-- The moment's text tells it from all others: its offset is a whole
number of minutes, and its time of day has a leap second only where a
text can have one. -/
structure Moment.Expressible (m : Moment) : Prop where
  offset : m.offset % 60 = 0
  time : m.time.Expressible

namespace Calendar

open RecordSieve.Text RecordSieve.Decimal

/-! ## Times of day -/

theorem expressible_midnight : ClockTime.midnight.Expressible := by
  intro h
  exact absurd h (by decide)

theorem expressible_of_ofFields? {hour minute second nanos : Nat} {t : ClockTime}
    (h : ClockTime.ofFields? hour minute second nanos = some t) : t.Expressible := by
  rw [ClockTime.ofFields?] at h
  split at h
  · next hrange =>
    cases h
    intro hleap
    dsimp only at hleap
    omega
  · cases h

theorem expressible_of_ofFieldsWithLeap? {hour minute second nanos : Nat} {t : ClockTime}
    (h : ClockTime.ofFieldsWithLeap? hour minute second nanos = some t) : t.Expressible := by
  rw [ClockTime.ofFieldsWithLeap?] at h
  split at h
  · split at h
    · cases h
      intro _
      rfl
    · cases h
  · exact expressible_of_ofFields? h

theorem expressible_of_ofLocal? {date : Date} {time : ClockTime} {offset : Int} {m : Moment}
    (htime : time.Expressible) (hoffset : offset % 60 = 0)
    (h : Moment.ofLocal? date time offset = some m) : m.Expressible := by
  obtain ⟨-, rfl, rfl⟩ := Moment.ofLocal?_eq_some_iff.mp h
  exact ⟨hoffset, htime⟩

/-! ## Offsets -/

/-- Hours and minutes make a whole number of minutes on either side of UTC. -/
theorem hoursMinutes_emod (negative : Bool) (hours minutes : Nat) :
    (if negative then -((hours : Int) * 3600 + minutes * 60) else hours * 3600 + minutes * 60) % 60
      = 0 := by
  cases negative <;> simp <;> omega

theorem offsetSeconds?_emod {negative : Bool} {hours minutes : List Char} {s : Int}
    (h : offsetSeconds? negative hours minutes = some s) : s % 60 = 0 := by
  obtain ⟨hs, -, h⟩ := Option.bind_eq_some_iff.mp h
  obtain ⟨ms, -, h⟩ := Option.bind_eq_some_iff.mp h
  split at h
  · cases h
    exact hoursMinutes_emod negative hs ms
  · cases h

theorem OffsetForm.seconds?_emod {offset : OffsetForm} {s : Int}
    (h : offset.seconds? = .ok (some s)) : s % 60 = 0 := by
  cases offset with
  | utc => cases h; rfl
  | colon negative hours minutes => exact offsetSeconds?_emod (Except.ok.inj h)
  | plain negative ds =>
    rw [OffsetForm.seconds?] at h
    split at h
    · exact offsetSeconds?_emod (Except.ok.inj h)
    · split at h
      · exact offsetSeconds?_emod (Except.ok.inj h)
      · cases h

theorem scanOffsetDigits?_emod {drop? : List Char → Option (List Char)} {typographic : Bool}
    {cs rest : List Char} {s : Int} (h : scanOffsetDigits? drop? typographic cs = some (s, rest)) :
    s % 60 = 0 := by
  cases cs with
  | nil => cases h
  | cons sign cs =>
    rw [scanOffsetDigits?] at h
    dsimp only at h
    split at h
    · obtain ⟨⟨hours, rest₁⟩, -, h⟩ := Option.bind_eq_some_iff.mp h
      obtain ⟨rest₂, -, h⟩ := Option.bind_eq_some_iff.mp h
      obtain ⟨⟨minutes, rest₃⟩, -, h⟩ := Option.bind_eq_some_iff.mp h
      dsimp only at h
      split at h
      · cases h
        exact hoursMinutes_emod _ hours minutes
      · cases h
    · cases h

theorem scanTimestampOffset?_emod {cs rest : List Char} {s : Int}
    (h : scanTimestampOffset? cs = some (s, rest)) : s % 60 = 0 := by
  unfold scanTimestampOffset? at h
  split at h
  · cases h; rfl
  · cases h; rfl
  · exact scanOffsetDigits?_emod (Option.filter_eq_some_iff.mp h).1

theorem scanZone?_emod {cs rest : List Char} {s : Int} (h : scanZone? cs = some (s, rest)) :
    s % 60 = 0 := by
  unfold scanZone? at h
  dsimp only at h
  split at h
  · exact scanOffsetDigits?_emod h
  · split at h
    · cases h
      omega
    · split at h
      · split at h
        · cases h; rfl
        · cases h
      · cases h

/-! ## Templates -/

/-- The offset of the fields, if they have one, is a whole number of minutes. -/
def Fields.Expressible (f : Fields) : Prop := ∀ s, f.offset = some s → s % 60 = 0

theorem Fields.expressible_empty : ({} : Fields).Expressible := by
  intro s hs
  cases hs

/-- Reading one item keeps the fields expressible: an offset is made of
hours and minutes, and no other item touches the offset. -/
theorem Item.read?_expressible {item : Item} {f f' : Fields} {cs rest : List Char}
    (hf : f.Expressible) (h : item.read? f cs = some (f', rest)) : f'.Expressible := by
  cases item with
  | literal c => exact (Item.read?_literal h).2 ▸ hf
  | blank =>
    cases h
    exact hf
  | offset =>
    obtain ⟨⟨s, rest'⟩, hs, heq⟩ := Option.map_eq_some_iff.mp h
    cases heq
    intro s' hs'
    cases hs'
    exact scanOffsetDigits?_emod hs
  | year | month | day | hour | minute | second | fraction | monthName | weekdayName =>
    obtain ⟨p, -, heq⟩ := Option.map_eq_some_iff.mp h
    cases heq
    exact hf

theorem readItems?_expressible {items : List Item} {f f' : Fields} {cs : List Char}
    (hf : f.Expressible) (h : readItems? items f cs = some f') : f'.Expressible :=
  readItems?_invariant (fun _ _ _ _ _ _ => Item.read?_expressible) hf h

theorem Fields.expressible_of_moment? {f : Fields} {m : Moment} (hf : f.Expressible)
    (h : f.moment? = some m) : m.Expressible := by
  obtain ⟨-, htime, hoffset⟩ := Fields.moment?_eq_some_iff.mp h
  obtain ⟨hour, -, htime⟩ := Option.bind_eq_some_iff.mp htime
  obtain ⟨minute, -, htime⟩ := Option.bind_eq_some_iff.mp htime
  refine ⟨?_, expressible_of_ofFieldsWithLeap? htime⟩
  rw [hoffset]
  cases hs : f.offset with
  | none => rfl
  | some s => exact hf s hs

/-! ## Readers -/

theorem NumericForm.expressible_of_clockTime? {form : NumericForm} {t : ClockTime}
    (h : form.clockTime? = some t) : t.Expressible := by
  rw [NumericForm.clockTime?] at h
  cases htime : form.time with
  | none =>
    rw [htime] at h
    cases h
    exact expressible_midnight
  | some time =>
    rw [htime] at h
    obtain ⟨hour, -, h⟩ := Option.bind_eq_some_iff.mp h
    obtain ⟨minute, -, h⟩ := Option.bind_eq_some_iff.mp h
    obtain ⟨second, -, h⟩ := Option.bind_eq_some_iff.mp h
    obtain ⟨nanos, -, h⟩ := Option.bind_eq_some_iff.mp h
    obtain ⟨hour', -, h⟩ := Option.bind_eq_some_iff.mp h
    exact expressible_of_ofFields? h

theorem NumericForm.offset?_emod {form : NumericForm} {s : Int}
    (h : form.offset? = .ok (some s)) : s % 60 = 0 := by
  rw [NumericForm.offset?] at h
  split at h
  · exact OffsetForm.seconds?_emod h
  · cases h; rfl

theorem expressible_of_readNumeric? {order : DateOrder} {cs : List Char} {m : Moment}
    (h : readNumeric? order cs = .ok (some m)) : m.Expressible := by
  rw [readNumeric?] at h
  split at h
  · obtain ⟨-, htime, hoffset⟩ := NumericForm.moment?_eq_ok_iff.mp h
    exact ⟨NumericForm.offset?_emod hoffset, NumericForm.expressible_of_clockTime? htime⟩
  · cases h

theorem expressible_of_readMonthName? {cs : List Char} {m : Moment}
    (h : readMonthName? cs = some m) : m.Expressible := by
  obtain ⟨date, -, h⟩ := Option.bind_eq_some_iff.mp h
  exact expressible_of_ofLocal? expressible_midnight rfl h

theorem expressible_of_readTemplate? {items : List Item} {cs : List Char} {m : Moment}
    (h : readTemplate? items cs = some m) : m.Expressible := by
  obtain ⟨f, hf, h⟩ := Option.bind_eq_some_iff.mp h
  exact Fields.expressible_of_moment? (readItems?_expressible Fields.expressible_empty hf) h

theorem expressible_of_readTimestamp? {cs : List Char} {m : Moment}
    (h : readTimestamp? cs = some m) : m.Expressible := by
  obtain ⟨⟨_, _, _, _, _, _, _, _, -, -, -, -, -, -, hoffset⟩, _, _, _, _, htime⟩ :=
    readTimestamp?_eq_some h
  exact ⟨scanTimestampOffset?_emod hoffset, expressible_of_ofFieldsWithLeap? htime⟩

theorem expressible_of_readMessageDate? {cs : List Char} {m : Moment}
    (h : readMessageDate? cs = some m) : m.Expressible := by
  unfold readMessageDate? at h
  obtain ⟨⟨weekday, cs₁⟩, -, h⟩ := Option.bind_eq_some_iff.mp h
  obtain ⟨⟨day, cs₂⟩, -, h⟩ := Option.bind_eq_some_iff.mp h
  obtain ⟨cs₃, -, h⟩ := Option.bind_eq_some_iff.mp h
  obtain ⟨⟨month, cs₄⟩, -, h⟩ := Option.bind_eq_some_iff.mp h
  obtain ⟨cs₅, -, h⟩ := Option.bind_eq_some_iff.mp h
  obtain ⟨⟨year, cs₆⟩, -, h⟩ := Option.bind_eq_some_iff.mp h
  obtain ⟨cs₇, -, h⟩ := Option.bind_eq_some_iff.mp h
  obtain ⟨⟨hour, cs₈⟩, -, h⟩ := Option.bind_eq_some_iff.mp h
  obtain ⟨cs₉, -, h⟩ := Option.bind_eq_some_iff.mp h
  obtain ⟨⟨minute, cs₁₀⟩, -, h⟩ := Option.bind_eq_some_iff.mp h
  -- What follows is the same with seconds and without them.
  have hzone (second : Option Nat) (cs : List Char)
      (h : ((dropBlanks? cs).bind fun cs => (scanZone? cs).bind fun zone =>
        if (dropComments zone.2.length zone.2).isEmpty then
          Fields.moment?
            { year := some year, month := some (month + 1), day := some day, weekday := weekday,
              hour := some hour, minute := some minute, second := second, offset := some zone.1 }
        else none) = some m) : m.Expressible := by
    obtain ⟨cs₁, -, h⟩ := Option.bind_eq_some_iff.mp h
    obtain ⟨⟨offset, cs₂⟩, hoffset, h⟩ := Option.bind_eq_some_iff.mp h
    dsimp only at h
    split at h
    · refine Fields.expressible_of_moment? ?_ h
      intro s hs
      cases hs
      exact scanZone?_emod hoffset
    · cases h
  dsimp only at h
  split at h
  · obtain ⟨⟨second, cs₁₁⟩, -, h⟩ := Option.bind_eq_some_iff.mp h
    exact hzone second cs₁₁ h
  · exact hzone none _ h

theorem expressible_of_readFixed? {cs : List Char} {m : Moment} (h : readFixed? cs = some m) :
    m.Expressible := by
  simp only [readFixed?, Option.or_eq_some_iff] at h
  rcases h with h | ⟨-, h | ⟨-, h | ⟨-, h⟩⟩⟩
  · exact expressible_of_readTimestamp? h
  · exact expressible_of_readTemplate? h
  · exact expressible_of_readMessageDate? h
  · exact expressible_of_readTemplate? h

theorem expressible_of_read? {locale : Locale} {text : String} {m : Moment}
    (h : read? locale text = .ok (some m)) : m.Expressible := by
  obtain ⟨numeric, hnumeric, h⟩ := bind_eq_ok_iff.mp h
  cases numeric with
  | some m' =>
    cases h
    exact expressible_of_readNumeric? hnumeric
  | none =>
    rcases Option.or_eq_some_iff.mp (Except.ok.inj h) with h | ⟨-, h⟩
    · exact expressible_of_readMonthName? h
    · exact expressible_of_readFixed? h

theorem expressible_of_readMoment {locale : Locale} {text : String} {m : Moment}
    (h : readMoment locale text = .ok m) : m.Expressible :=
  expressible_of_read? (readMoment_eq_ok_iff.mp h)

end Calendar

end RecordSieve
