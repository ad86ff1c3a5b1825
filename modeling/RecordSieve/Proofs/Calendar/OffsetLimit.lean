/-
RecordSieve.Proofs.Calendar.OffsetLimit — how far from UTC an offset is.

The numeric form keeps its offsets within 14 hours and 59 minutes of UTC
(`InLimit`).  It is the only one that does: timestamps, the template with
an offset and message dates go up to 23 hours and 59 minutes, which is
the limit of all forms (`readMoment_offset`).

So a numeric date that is refused for its offset may still be read, as a
timestamp or by that template.  Both need the offset at the end of the
text, and so does the numeric form.  No mark that starts an offset comes
after it again (`lastMark_unique`), so they read the same sign, hours and
minutes (`OffsetText.writes_of_scan`), and the hours are between 15 and
23.
-/
import RecordSieve.Proofs.Calendar.Expressible
import RecordSieve.Proofs.Calendar.NumericMoment

namespace RecordSieve.Calendar

open RecordSieve.Text RecordSieve.Decimal

/-- At most 14 hours and 59 minutes from UTC, in seconds. -/
def InLimit (offset : Int) : Prop := offset.natAbs ≤ (14 * 60 + 59) * 60

instance (offset : Int) : Decidable (InLimit offset) := inferInstanceAs (Decidable (_ ≤ _))

/-! ## The last mark of a text -/

/-- The marks in front of an offset or of a time of day. -/
def lastMarks : List Char := ['-', '+', typographicMinus, 'Z', 'z', 'T']

/-- What a time of day and an offset consist of, apart from their mark. -/
def IsClockChar (c : Char) : Prop :=
  isDecimalDigit c = true ∨ isBlank c = true ∨ c = ':' ∨ c = '.'

section

variable {form : NumericForm} {offset : OffsetForm} {cs front front' off os rest : List Char}
  {f f' : Fields} {m : Moment} {s : Int}

theorem typographicMinus_notClock :
    isDecimalDigit typographicMinus = false ∧ isBlank typographicMinus = false := by
  decide +kernel

theorem IsClockChar.not_mem_lastMarks {c : Char} (h : IsClockChar c) : c ∉ lastMarks := by
  have hmarks : ∀ c ∈ lastMarks, c = typographicMinus ∨ (c.toNat < 128 ∧ isAsciiDigit c = false) ∧
      33 ≤ c.toNat ∧ c.toNat ≤ 126 := by decide
  have hothers : ∀ c ∈ lastMarks, c ≠ ':' ∧ c ≠ '.' := by decide
  intro hc
  have hnot : isDecimalDigit c = false ∧ isBlank c = false := by
    rcases hmarks c hc with rfl | ⟨hascii, hvisible⟩
    · exact typographicMinus_notClock
    · exact ⟨isDecimalDigit_eq_false hascii, isBlank_eq_false hvisible⟩
  rcases h with h | h | h | h
  · rw [hnot.1] at h
    cases h
  · rw [hnot.2] at h
    cases h
  · exact (hothers c hc).1 h
  · exact (hothers c hc).2 h

theorem isClockChar_of_number {ds : List Char} {n : Nat} (h : natOfDigits? ds = some n) :
    ∀ d ∈ ds, IsClockChar d := fun d hd => .inl (isDecimalDigit_of_number h d hd)

/-- A text has one last mark. -/
theorem lastMark_unique {a b : Char} {as bs : List Char} (ha : a ∈ lastMarks) (hb : b ∈ lastMarks)
    (has : ∀ c ∈ as, IsClockChar c) (hbs : ∀ c ∈ bs, IsClockChar c)
    (h : front ++ a :: as = front' ++ b :: bs) : a = b ∧ as = bs := by
  rcases List.append_eq_append_iff.mp h with ⟨gap, -, hgap⟩ | ⟨gap, -, hgap⟩
  · cases gap with
    | nil => exact List.cons.inj hgap
    | cons c gap =>
      have hmem : b ∈ as := by simp [(List.cons.inj hgap).2]
      exact absurd hb (has b hmem).not_mem_lastMarks
  · cases gap with
    | nil =>
      obtain ⟨rfl, rfl⟩ := List.cons.inj hgap
      exact ⟨rfl, rfl⟩
    | cons c gap =>
      have hmem : a ∈ bs := by simp [(List.cons.inj hgap).2]
      exact absurd ha (hbs a hmem).not_mem_lastMarks

/-! ## Offsets at the end of a text -/

/-- What an offset of two numbers of two digits is made of. -/
theorem scanOffsetDigits?_eq_some {drop? : List Char → Option (List Char)} {typographic : Bool}
    (h : scanOffsetDigits? drop? typographic off = some (s, rest)) :
    ∃ sign hs after ms hours minutes, off = sign :: (hs ++ after) ∧
      drop? after = some (ms ++ rest) ∧ sign ∈ lastMarks ∧ natOfDigits? hs = some hours ∧
      natOfDigits? ms = some minutes ∧ ms.length = 2 ∧ minutes ≤ 59 ∧
      s = offsetOf (sign != '+') hours minutes := by
  cases off with
  | nil => cases h
  | cons sign off =>
    rw [scanOffsetDigits?] at h
    dsimp only at h
    split at h
    · next hsign =>
      obtain ⟨⟨hours, after⟩, hhours, next₁⟩ := Option.bind_eq_some_iff.mp h
      obtain ⟨back, hdrop, next₂⟩ := Option.bind_eq_some_iff.mp next₁
      obtain ⟨⟨minutes, rest'⟩, hminutes, next₃⟩ := Option.bind_eq_some_iff.mp next₂
      clear h next₁ next₂
      obtain ⟨hs, rfl, hhs, -⟩ := scanNumber?_eq_some hhours
      obtain ⟨ms, rfl, hms, hleast, hmost⟩ := scanNumber?_eq_some hminutes
      dsimp only at next₃
      split at next₃
      · next hlt =>
        cases next₃
        refine ⟨sign, hs, after, ms, hours, minutes, rfl, hdrop, ?_, hhs, hms,
          Nat.le_antisymm hmost hleast, Nat.le_of_lt_succ hlt, ?_⟩
        · simp only [Bool.or_eq_true, Bool.and_eq_true, beq_iff_eq] at hsign
          simp only [lastMarks, List.mem_cons]
          tauto
        · rw [offsetOf]
          by_cases hplus : sign = '+'
          · simp [hplus, typographicMinus]
          · have hnegative : (sign == '-' || typographic && sign == typographicMinus) = true := by
              simpa [hplus] using hsign
            simp [hplus, hnegative]
      · cases next₃
    · cases h

/-- What stands between hours and minutes: colons and blanks, or nothing. -/
def DropsGap (drop? : List Char → Option (List Char)) : Prop :=
  ∀ cs rest, drop? cs = some rest → ∃ gap, cs = gap ++ rest ∧ ∀ c ∈ gap, c = ':' ∨ isBlank c = true

theorem dropsGap_colon : DropsGap (dropLiteral? ':') := by
  intro cs rest h
  exact ⟨[':'], dropLiteral?_eq_some h, by simp⟩

theorem dropsGap_separator : DropsGap dropOffsetSeparator? := by
  intro cs rest h
  cases h
  refine ⟨cs.takeWhile fun c => c == ':' || isBlank c, List.takeWhile_append_dropWhile.symm, ?_⟩
  intro c hc
  simpa using List.mem_takeWhile_imp hc

theorem isDecimalDigit_of_gap {c : Char} (h : c = ':' ∨ isBlank c = true) :
    isDecimalDigit c = false := by
  rcases h with rfl | hblank
  · exact isDecimalDigit_eq_false (by decide)
  · exact isDecimalDigit_of_isBlank hblank

theorem isClockChar_body {hs gap ms : List Char} (hhs : ∀ c ∈ hs, isDecimalDigit c = true)
    (hgap : ∀ c ∈ gap, c = ':' ∨ isBlank c = true) (hms : ∀ c ∈ ms, isDecimalDigit c = true) :
    ∀ c ∈ hs ++ (gap ++ ms), IsClockChar c := by
  intro c hc
  simp only [List.mem_append] at hc
  rcases hc with hc | hc | hc
  · exact .inl (hhs c hc)
  · exact .inr ((hgap c hc).elim (fun h => .inr (.inl h)) .inl)
  · exact .inl (hms c hc)

/-- Hours and minutes with colons and blanks between them are those with a
colon between them, if there are as many digits of minutes. -/
theorem eq_of_colon {hs gap ms hs' ms' : List Char} (hhs : ∀ c ∈ hs, isDecimalDigit c = true)
    (hgap : ∀ c ∈ gap, c = ':' ∨ isBlank c = true) (hms : ∀ c ∈ ms, isDecimalDigit c = true)
    (hhs' : ∀ c ∈ hs', isDecimalDigit c = true) (hlength : ms.length = ms'.length)
    (h : hs ++ (gap ++ ms) = hs' ++ ':' :: ms') : hs = hs' ∧ ms = ms' := by
  -- The hours end at the first character that is no digit.
  obtain ⟨htake', hdrop'⟩ := (endsRun_colon ms').cut hhs'
  cases gap with
  | nil =>
    have hcolon : ':' ∈ hs ++ ms := by
      rw [List.nil_append] at h
      simp [h]
    have hdigit : isDecimalDigit ':' = true := (List.mem_append.mp hcolon).elim (hhs ':') (hms ':')
    rw [isDecimalDigit_eq_false (by decide)] at hdigit
    cases hdigit
  | cons c gap =>
    have hends : EndsRun (c :: (gap ++ ms)) :=
      endsRun_cons (isDecimalDigit_of_gap (hgap c List.mem_cons_self))
    obtain ⟨htake, hdrop⟩ := hends.cut hhs
    rw [← List.cons_append, h, htake'] at htake
    rw [← List.cons_append, h, hdrop'] at hdrop
    have hms' : ms' = gap ++ ms := (List.cons.inj hdrop).2
    have hnil : gap = [] := by
      rw [hms', List.length_append] at hlength
      exact List.length_eq_zero_iff.mp (by omega)
    rw [hnil, List.nil_append] at hms'
    exact ⟨htake.symm, hms'.symm⟩

theorem OffsetText.exists_mark (h : OffsetText os (some offset)) (hutc : offset ≠ .utc) :
    ∃ sign body, os = sign :: body ∧ IsSign sign ∧ ∀ c ∈ body, IsClockChar c := by
  cases h with
  | utc => exact absurd rfl hutc
  | plain isSign digits => exact ⟨_, _, rfl, isSign, fun c hc => .inl (digits.digits c hc)⟩
  | colon isSign hours minutes =>
    have hcolon : ∀ c ∈ [':'], c = ':' ∨ isBlank c = true := by simp
    exact ⟨_, _, rfl, isSign, isClockChar_body hours.digits hcolon minutes.digits⟩

/-- A numeric date and another form that both end in their offset read
the same sign, hours and minutes. -/
theorem OffsetText.writes_of_scan {drop? : List Char → Option (List Char)} {typographic : Bool}
    (htext : OffsetText os (some offset)) (hutc : offset ≠ .utc) (hdrop : DropsGap drop?)
    (hscan : scanOffsetDigits? drop? typographic off = some (s, []))
    (hcs : front ++ off = front' ++ os) :
    ∃ negative hours minutes, offset.Writes negative hours minutes ∧ minutes ≤ 59 ∧
      s = offsetOf negative hours minutes := by
  obtain ⟨mark, hs, after, ms, hours, minutes, rfl, hafter, hmark, hhs, hms, htwo, hminutes, rfl⟩ :=
    scanOffsetDigits?_eq_some hscan
  rw [List.append_nil] at hafter
  obtain ⟨gap, rfl, hgap⟩ := hdrop _ _ hafter
  have hhours := isDecimalDigit_of_number hhs
  have hlast := isDecimalDigit_of_number hms
  have hsigns : ∀ c, IsSign c → c ∈ lastMarks ∧ (c != '+') = (c == '-') := by
    rintro c (rfl | rfl) <;> decide
  -- Both start at the last mark of the text.
  obtain ⟨sign, body, rfl, isSign, hbody⟩ := htext.exists_mark hutc
  obtain ⟨rfl, hsame⟩ := lastMark_unique hmark (hsigns sign isSign).1
    (isClockChar_body hhours hgap hlast) hbody hcs
  rw [(hsigns mark isSign).2]
  cases htext with
  | utc => exact absurd rfl hutc
  | plain _ digits =>
    subst hsame
    -- There are digits only, so nothing stands between hours and minutes.
    have hnil : gap = [] := by
      refine List.eq_nil_iff_forall_not_mem.mpr fun c hc => ?_
      have hdigit := digits.digits c (by simp [hc])
      rw [isDecimalDigit_of_gap (hgap c hc)] at hdigit
      cases hdigit
    rw [hnil, List.nil_append]
    exact ⟨_, hours, minutes, .plain hhs hms htwo, hminutes, rfl⟩
  | colon _ hourDigits minuteDigits =>
    have hlength := Nat.le_antisymm minuteDigits.le_most minuteDigits.least_le
    obtain ⟨rfl, rfl⟩ :=
      eq_of_colon hhours hgap hlast hourDigits.digits (htwo.trans hlength.symm) hsame
    exact ⟨_, hours, minutes, .colon hhs hms, hminutes, rfl⟩

/-! ## Numeric dates that end in an offset -/

/-- The offset of a numeric date is the end of its text, but for blanks. -/
theorem NumericForm.IsText.exists_offsetText (h : form.IsText cs)
    (hoffset : form.offset = some offset) :
    ∃ front os back, cs = (front ++ os) ++ back ∧ OffsetText os (some offset) ∧
      isAllBlank back = true := by
  cases h with
  | @intro blanks a b c _ sep₁ sep₂ _ _ _ _ _ _ _ isRest =>
    cases isRest with
    | blanks => cases hoffset
    | time isTime =>
      cases isTime with
      | @intro mark hour minute ss hs os gap₁ gap₂ back _ _ _ _ _ _ _ _ _ _ _ isOffset blankBack =>
        cases hoffset
        exact ⟨blanks ++ (a ++ sep₁ :: (b ++ sep₂ :: (c ++ (mark ++ (hour ++ ':' :: (minute ++
          (ss ++ (gap₁ ++ (hs ++ gap₂))))))))), os, back, by simp, isOffset, blankBack⟩

/-! ## Forms that end in an offset -/

theorem scanFraction?_eq_some {nanos : Nat} (h : scanFraction? cs = some (nanos, rest)) :
    ∃ used, cs = used ++ rest ∧ ∀ c ∈ used, IsClockChar c := by
  unfold scanFraction? at h
  split at h
  · next cs =>
    rw [scanNanos?] at h
    obtain ⟨n, hn, heq⟩ := Option.map_eq_some_iff.mp h
    cases heq
    refine ⟨'.' :: (leadingDigits 9 cs ++
      (cs.drop (leadingDigits 9 cs).length).takeWhile isAsciiDigit), ?_, fun c hc => ?_⟩
    · rw [List.cons_append, List.append_assoc, List.takeWhile_append_dropWhile,
        List.prefix_iff_eq_append.mp (leadingDigits_isPrefix 9 cs)]
    · simp only [List.mem_cons, List.mem_append] at hc
      rcases hc with rfl | hc | hc
      · exact .inr (.inr (.inr rfl))
      · exact isClockChar_of_number hn c hc
      · exact .inl (isDecimalDigit_of_isAsciiDigit (List.mem_takeWhile_imp hc))
  · cases h
    exact ⟨[], rfl, by simp⟩

/-- A timestamp ends in its offset. -/
theorem exists_offset_of_readTimestamp? (h : readTimestamp? cs = some m) :
    ∃ front off, cs = front ++ off ∧ scanTimestampOffset? off = some (m.offset, []) := by
  obtain ⟨⟨_, _, _, mark, cs₁, cs₂, cs₃, off, hyear, hmonth, hday, -, -, hsuffix, hoffset⟩, -⟩ :=
    readTimestamp?_eq_some h
  have hback {c : Char} {tail : List Char} : tail <:+ c :: tail := List.suffix_cons c tail
  obtain ⟨front, hfront⟩ := hsuffix.trans <| (hback.trans (scanNumber?_suffix hday)).trans <|
    (hback.trans (scanNumber?_suffix hmonth)).trans <| hback.trans (scanNumber?_suffix hyear)
  exact ⟨front, off, hfront.symm, hoffset⟩

/-- The items of a time of day. -/
def clockItems : List Item :=
  [.hour, .literal ':', .minute, .literal ':', .second, .fraction]

theorem localTemplate_eq : localTemplate =
    [.year, .literal '-', .month, .literal '-', .day, .literal 'T'] ++ (clockItems ++ []) := rfl

theorem offsetTemplate_eq : offsetTemplate =
    [.year, .literal '-', .month, .literal '-', .day, .literal 'T'] ++ (clockItems ++ [.offset]) :=
  rfl

theorem Item.read?_clockChars {item : Item} (hitem : item ∈ clockItems)
    (h : item.read? f cs = some (f', rest)) :
    ∃ used, cs = used ++ rest ∧ ∀ c ∈ used, IsClockChar c := by
  have hnumber {least most : Nat} (set : Nat → Fields)
      (h : (scanNumber? least most (trimLeft cs)).map (fun p => (set p.1, p.2)) =
        some (f', rest)) : ∃ used, cs = used ++ rest ∧ ∀ c ∈ used, IsClockChar c := by
    obtain ⟨⟨n, rest'⟩, hscan, heq⟩ := Option.map_eq_some_iff.mp h
    cases heq
    obtain ⟨ds, htrim, hn, -⟩ := scanNumber?_eq_some hscan
    obtain ⟨blanks, hblanks, hcs⟩ := exists_blanks_append cs
    refine ⟨blanks ++ ds, by rw [List.append_assoc, ← htrim, ← hcs], fun c hc => ?_⟩
    rcases List.mem_append.mp hc with hc | hc
    · exact .inr (.inl (List.all_eq_true.mp hblanks c hc))
    · exact isClockChar_of_number hn c hc
  simp only [clockItems, List.mem_cons, List.not_mem_nil, or_false] at hitem
  rcases hitem with rfl | rfl | rfl | rfl | rfl | rfl
  · exact hnumber (fun n => { f with hour := some n }) h
  · exact ⟨[':'], (Item.read?_literal h).1, by simp [IsClockChar]⟩
  · exact hnumber (fun n => { f with minute := some n }) h
  · exact ⟨[':'], (Item.read?_literal h).1, by simp [IsClockChar]⟩
  · exact hnumber (fun n => { f with second := some n }) h
  · obtain ⟨⟨n, rest'⟩, hscan, heq⟩ := Option.map_eq_some_iff.mp h
    cases heq
    exact scanFraction?_eq_some hscan

theorem readItems?_clockChars {items last : List Item} (hitems : ∀ item ∈ items, item ∈ clockItems)
    (h : readItems? (items ++ last) f cs = some f') :
    ∃ used rest f₁, cs = used ++ rest ∧ (∀ c ∈ used, IsClockChar c) ∧
      readItems? last f₁ rest = some f' := by
  induction items generalizing f cs with
  | nil => exact ⟨[], cs, f, rfl, by simp, h⟩
  | cons item items ih =>
    obtain ⟨hitem, hitems⟩ := List.forall_mem_cons.mp hitems
    obtain ⟨⟨f₁, cs₁⟩, hread, hrest⟩ := Option.bind_eq_some_iff.mp h
    obtain ⟨used, rfl, hused⟩ := Item.read?_clockChars hitem hread
    obtain ⟨used', rest, f₂, rfl, hused', hlast⟩ := ih hitems hrest
    refine ⟨used ++ used', rest, f₂, (List.append_assoc ..).symm, fun c hc => ?_, hlast⟩
    exact (List.mem_append.mp hc).elim (hused c) (hused' c)

/-- The template with an offset ends in it. -/
theorem NumericForm.LaidOut.exists_offset_of_readTemplate? {sep₁ sep₂ : Char}
    (h : form.LaidOut sep₁ sep₂ rest cs) (hm : readTemplate? offsetTemplate cs = some m) :
    ∃ front off, cs = front ++ off ∧
      scanOffsetDigits? dropOffsetSeparator? true off = some (m.offset, []) := by
  rw [offsetTemplate_eq] at hm
  obtain ⟨fields, hfields, -, -, hseconds⟩ := readTemplate?_eq_some_iff.mp hm
  obtain ⟨_, _, _, after, -, -, -, ⟨-, -, rfl⟩, hafter⟩ := h.of_readItems? hfields
  obtain ⟨used, back, f₁, rfl, -, hback⟩ := readItems?_clockChars (fun _ => id) hafter
  obtain ⟨⟨f₂, cs₂⟩, hoffset, hend⟩ := Option.bind_eq_some_iff.mp hback
  obtain ⟨rfl, rfl⟩ := readItems?_nil_eq_some_iff.mp hend
  obtain ⟨⟨offset, cs₃⟩, hscan, heq⟩ := Option.map_eq_some_iff.mp hoffset
  cases heq
  obtain ⟨blanks, -, hblanks⟩ := exists_blanks_append back
  refine ⟨form.a ++ sep₁ :: (form.b ++ sep₂ :: (form.c ++ 'T' :: (used ++ blanks))),
    trimLeft back, ?_, hseconds ▸ hscan⟩
  rw [h.text]
  simp [← hblanks]

/-- After its letter T the template without an offset has a time of day and nothing else. -/
theorem NumericForm.LaidOut.exists_clock_of_readTemplate? {sep₁ sep₂ : Char}
    (h : form.LaidOut sep₁ sep₂ rest cs) (hm : readTemplate? localTemplate cs = some m) :
    ∃ front after, cs = front ++ 'T' :: after ∧ ∀ c ∈ after, IsClockChar c := by
  rw [localTemplate_eq] at hm
  obtain ⟨fields, hfields, -⟩ := readTemplate?_eq_some_iff.mp hm
  obtain ⟨_, _, _, after, -, -, -, ⟨-, -, rfl⟩, hafter⟩ := h.of_readItems? hfields
  obtain ⟨used, back, f₁, rfl, hused, hback⟩ := readItems?_clockChars (fun _ => id) hafter
  obtain ⟨rfl, -⟩ := readItems?_nil_eq_some_iff.mp hback
  refine ⟨form.a ++ sep₁ :: (form.b ++ sep₂ :: form.c), used, ?_, hused⟩
  rw [h.text]
  simp

/-! ## Numeric dates with an offset out of range -/

theorem scanTimestampOffset?_cases (h : scanTimestampOffset? off = some (s, [])) :
    (∃ c ∈ ['Z', 'z'], off = [c]) ∨
      scanOffsetDigits? (dropLiteral? ':') true off = some (s, []) := by
  unfold scanTimestampOffset? at h
  split at h
  · cases h
    exact .inl ⟨'Z', by simp, rfl⟩
  · cases h
    exact .inl ⟨'z', by simp, rfl⟩
  · exact .inr (Option.filter_eq_some_iff.mp h).1

/-- Another form reads the sign, hours and minutes that the numeric date
has in its offset. -/
theorem writes_of_readFixed? {sep₁ sep₂ : Char} (hlaid : form.LaidOut sep₁ sep₂ rest (front ++ os))
    (htext : OffsetText os (some offset)) (hutc : offset ≠ .utc)
    (hm : readFixed? (front ++ os) = some m) :
    (readTimestamp? (front ++ os) = some m ∨ readTemplate? offsetTemplate (front ++ os) = some m) ∧
      ∃ negative hours minutes, offset.Writes negative hours minutes ∧ minutes ≤ 59 ∧
        m.offset = offsetOf negative hours minutes := by
  obtain ⟨sign, body, rfl, isSign, hbody⟩ := htext.exists_mark hutc
  have hmark : sign ∈ lastMarks ∧ sign ∉ ['Z', 'z', 'T'] := by
    rcases isSign with rfl | rfl <;> decide
  rw [readFixed?, hlaid.readMessageDate?_eq_none, Option.none_or, Option.or_eq_some_iff,
    Option.or_eq_some_iff] at hm
  rcases hm with hm | ⟨-, hm | ⟨-, hm⟩⟩
  · refine ⟨.inl hm, ?_⟩
    obtain ⟨front', off, hcs, hoff⟩ := exists_offset_of_readTimestamp? hm
    rcases scanTimestampOffset?_cases hoff with ⟨c, hc, rfl⟩ | hscan
    · have hmarks : ∀ c ∈ ['Z', 'z'], c ∈ lastMarks ∧ c ∈ ['Z', 'z', 'T'] := by decide
      obtain ⟨rfl, -⟩ := lastMark_unique hmark.1 (hmarks c hc).1 hbody (by simp) hcs
      exact absurd (hmarks sign hc).2 hmark.2
    · exact htext.writes_of_scan hutc dropsGap_colon hscan hcs.symm
  · refine ⟨.inr hm, ?_⟩
    obtain ⟨front', off, hcs, hscan⟩ := hlaid.exists_offset_of_readTemplate? hm
    exact htext.writes_of_scan hutc dropsGap_separator hscan hcs.symm
  · obtain ⟨front', after, hcs, hafter⟩ := hlaid.exists_clock_of_readTemplate? hm
    obtain ⟨rfl, -⟩ := lastMark_unique hmark.1 (by decide) hbody hafter hcs
    exact absurd (by simp) hmark.2

/-! ## All forms -/

theorem inLimit_of_readNumeric? {order : DateOrder} (h : readNumeric? order cs = .ok (some m)) :
    InLimit m.offset := by
  cases hscan : NumericForm.scan? cs with
  | none =>
    rw [readNumeric?, hscan] at h
    cases h
  | some form =>
    have hform : form.IsText cs := NumericForm.scan?_eq_some_iff.mp hscan
    have hoffset := (hform.readNumeric?_eq_ok_iff.mp h).offset
    cases hfield : form.offset with
    | none =>
      rw [hfield] at hoffset
      have hzero : m.offset = 0 := hoffset
      simp [InLimit, hzero]
    | some offset =>
      rw [hfield] at hoffset
      obtain ⟨negative, hours, minutes, -, hrange, hseconds⟩ := hoffset
      rw [InLimit, hseconds, natAbs_offsetOf]
      omega

theorem Item.read?_offset {item : Item} (hitem : item ≠ .offset)
    (h : item.read? f cs = some (f', rest)) : f'.offset = f.offset := by
  cases item with
  | literal c => rw [(Item.read?_literal h).2]
  | blank =>
    cases h
    rfl
  | offset => exact absurd rfl hitem
  | year | month | day | hour | minute | second | fraction | monthName | weekdayName =>
    obtain ⟨p, -, heq⟩ := Option.map_eq_some_iff.mp h
    cases heq
    rfl

theorem readItems?_offset {items : List Item} (hitems : ∀ item ∈ items, item ≠ .offset)
    (h : readItems? items f cs = some f') : f'.offset = f.offset := by
  refine readItems?_invariant (p := fun f' => f'.offset = f.offset)
    (fun item hitem f₁ f₂ cs rest hf hread => ?_) rfl h
  rw [Item.read?_offset (hitems item hitem) hread, hf]

/-- A template without an offset is in UTC. -/
theorem offset_of_readTemplate? {items : List Item} (hitems : ∀ item ∈ items, item ≠ .offset)
    (h : readTemplate? items cs = some m) : m.offset = 0 := by
  obtain ⟨fields, hfields, -, -, hoffset⟩ := readTemplate?_eq_some_iff.mp h
  rw [hoffset, readItems?_offset hitems hfields]
  rfl

theorem offset_of_readMonthName? (h : readMonthName? cs = some m) : m.offset = 0 := by
  obtain ⟨date, -, hlocal⟩ := Option.bind_eq_some_iff.mp h
  exact (Moment.ofLocal?_eq_some_iff.mp hlocal).2.2

/-- The three forms that may leave the limit, after the numeric form has passed. -/
theorem beyond_limit_cases {locale : Locale} {text : String} (h : readMoment locale text = .ok m)
    (hbeyond : ¬ InLimit m.offset) :
    readNumeric? locale.dateOrder (trim text.toList) = .ok none ∧
      (readTimestamp? (trim text.toList) = some m ∨
        readTemplate? offsetTemplate (trim text.toList) = some m ∨
        readMessageDate? (trim text.toList) = some m) := by
  have hzero {offset : Int} (h : offset = 0) : InLimit offset := by simp [InLimit, h]
  rcases readMoment_eq_ok_cases h with hnumeric | ⟨hnumeric, hother⟩
  · exact absurd (inLimit_of_readNumeric? hnumeric) hbeyond
  · refine ⟨hnumeric, ?_⟩
    simp only [readFixed?, Option.or_eq_some_iff] at hother
    rcases hother with hm | ⟨-, hm | ⟨-, hm | ⟨-, hm | ⟨-, hm⟩⟩⟩⟩
    · exact absurd (hzero (offset_of_readMonthName? hm)) hbeyond
    · exact .inl hm
    · exact .inr (.inl hm)
    · exact .inr (.inr hm)
    · exact absurd (hzero (offset_of_readTemplate? (by decide) hm)) hbeyond

/-- A moment is at most 23 hours and 59 minutes from UTC.  It is at most 14
hours and 59 minutes from it, unless the numeric form has passed the
text on, and it is a timestamp, of the template with an offset, or a
message date.  A numeric date with an offset out of range is refused
unless one of the first two reads that offset, of 15 to 23 hours. -/
theorem readMoment_offset (locale : Locale) (text : String) (m : Moment)
    (h : readMoment locale text = .ok m) :
    m.offset.natAbs ≤ (23 * 60 + 59) * 60 ∧
    (¬ InLimit m.offset → readNumeric? locale.dateOrder (trim text.toList) = .ok none ∧
      (readTimestamp? (trim text.toList) = some m ∨
        readTemplate? offsetTemplate (trim text.toList) = some m ∨
        readMessageDate? (trim text.toList) = some m)) ∧
    (∀ form offset, NumericForm.IsText form (trim text.toList) → form.offset = some offset →
      ¬ offset.InRange →
      (readTimestamp? (trim text.toList) = some m ∨
        readTemplate? offsetTemplate (trim text.toList) = some m) ∧
      ∃ negative hours minutes, offset.Writes negative hours minutes ∧
        (15 ≤ hours ∧ hours ≤ 23) ∧ minutes ≤ 59 ∧ m.offset = offsetOf negative hours minutes) := by
  have hsize : m.offset.natAbs ≤ (23 * 60 + 59) * 60 := by
    have hminutes := (expressible_of_readMoment h).offset
    have hrange := m.offsetInRange
    simp only [secondsPerDay] at hrange
    omega
  refine ⟨hsize, beyond_limit_cases h, fun form offset hform hoffset hnot => ?_⟩
  rcases readMoment_eq_ok_cases h with hnumeric | ⟨-, hother⟩
  · have hshows := (hform.readNumeric?_eq_ok_iff.mp hnumeric).offset
    rw [hoffset] at hshows
    exact absurd (OffsetForm.exists_shows_iff.mp ⟨_, hshows⟩) hnot
  · obtain ⟨sep₁, sep₂, rest, hlaid⟩ := NumericForm.scan?_laidOut hform.scan?_eq
    rw [trimLeft_trim] at hlaid
    rw [hlaid.readMonthName?_eq_none, Option.none_or] at hother
    have hutc : offset ≠ .utc := by
      rintro rfl
      exact hnot ⟨false, 0, 0, .utc, by decide⟩
    obtain ⟨front, os, back, htrim, htext, hback⟩ := hform.exists_offsetText hoffset
    rw [eq_nil_of_trim_eq_append htrim hback, List.append_nil] at htrim
    rw [htrim] at hlaid hother ⊢
    obtain ⟨hcases, negative, hours, minutes, hwrites, hminutes, hseconds⟩ :=
      writes_of_readFixed? hlaid htext hutc hother
    have hlate : ¬ hours ≤ 14 := fun hearly =>
      hnot ⟨negative, hours, minutes, hwrites, hearly, hminutes⟩
    rw [hseconds, natAbs_offsetOf] at hsize
    exact ⟨hcases, negative, hours, minutes, hwrites, by omega, hminutes, hseconds⟩

/-- The numeric form refuses fifteen hours, and the timestamp takes them. -/
theorem readMoment_offset_fifteen :
    ∃ m, readMoment .invariant "2019-06-01T08:00:00+15:00" = .ok m ∧ m.offset = 54000 ∧
      ¬ InLimit m.offset ∧
      readNumeric? Locale.invariant.dateOrder (trim "2019-06-01T08:00:00+15:00".toList) = .ok none ∧
      ¬ OffsetForm.InRange (.colon false ['1', '5'] ['0', '0']) ∧
      ∃ negative hours minutes,
        OffsetForm.Writes (.colon false ['1', '5'] ['0', '0']) negative hours minutes ∧
        (15 ≤ hours ∧ hours ≤ 23) ∧ m.offset = offsetOf negative hours minutes := by
  have hread : (readMoment .invariant "2019-06-01T08:00:00+15:00").toOption.map (·.offset) =
      some 54000 := by decide +kernel
  obtain ⟨m, hm, hoffset⟩ := Option.map_eq_some_iff.mp hread
  have hbeyond : ¬ InLimit m.offset := by
    rw [hoffset]
    decide
  have hform : NumericForm.IsText ⟨"2019".toList, "06".toList, "01".toList,
      some ⟨"08".toList, "00".toList, some "00".toList, none, none,
        some (.colon false ['1', '5'] ['0', '0'])⟩⟩ (trim "2019-06-01T08:00:00+15:00".toList) :=
    NumericForm.scan?_eq_some_iff.mp (by decide +kernel)
  have hnot : ¬ OffsetForm.InRange (.colon false ['1', '5'] ['0', '0']) := by
    rintro ⟨_, hours, _, hwrites, hearly, -⟩
    cases hwrites with
    | colon hhours _ =>
      have hfifteen : natOfDigits? ['1', '5'] = some 15 := by decide
      obtain rfl : 15 = hours := Option.some.inj (hfifteen.symm.trans hhours)
      exact absurd hearly (by decide)
  obtain ⟨-, hpassed, hwritten⟩ := readMoment_offset .invariant _ m (toOption_eq_some_iff.mp hm)
  obtain ⟨-, negative, hours, minutes, hwrites, hhours, -, hseconds⟩ :=
    hwritten _ _ hform rfl hnot
  exact ⟨m, toOption_eq_some_iff.mp hm, hoffset, hbeyond, (hpassed hbeyond).1, hnot, negative,
    hours, minutes, hwrites, hhours, hseconds⟩

/-- So the limit of numeric dates is not that of all moments. -/
theorem not_inLimit_of_timestamp : ¬ ∀ (locale : Locale) (text : String) (m : Moment),
    readMoment locale text = .ok m → InLimit m.offset := by
  intro h
  have hread : (readMoment .invariant "2019-06-01T08:00:00+15:00").toOption.map (·.offset) =
      some 54000 := by decide +kernel
  obtain ⟨m, hm, hoffset⟩ := Option.map_eq_some_iff.mp hread
  have hlimit := h .invariant "2019-06-01T08:00:00+15:00" m (toOption_eq_some_iff.mp hm)
  rw [hoffset] at hlimit
  exact absurd hlimit (by decide)

end

end RecordSieve.Calendar
