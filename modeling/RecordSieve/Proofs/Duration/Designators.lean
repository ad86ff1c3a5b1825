/-
RecordSieve.Proofs.Duration.Designators — reading the designator form.

The scanner of components is followed twice.  What it cuts out of a text
makes up the text (`componentText_of_scan`); and a text that is made up of
components is cut in the same places (`scanComponent_text`), because a run
of digits ends where a mark stands.  One character is in the way of the
first: the long s counts as a designator of seconds, so the text has to
be ASCII.
-/
import RecordSieve.Proofs.Duration.Grammar
import RecordSieve.Proofs.Outcome

namespace RecordSieve.Duration

open RecordSieve.Text RecordSieve.Decimal RecordSieve.Calendar

/-! ## Components -/

section

variable {mark : Char → Bool} {marks cs rest text : List Char} {field : Option (List Char)}
  {n : Option Nat}

theorem scanComponent_nil : scanComponent mark [] = (none, []) := rfl

theorem scanComponent_of_endsRun (h : EndsRun cs) : scanComponent mark cs = (none, cs) := by
  cases cs with
  | nil => rfl
  | cons c cs =>
    have hc : isDecimalDigit c = false := h c rfl
    simp [scanComponent, hc]

/-- A number, and what is done at the character after it. -/
theorem scanComponent_number {ds : List Char} {k : Nat} {c : Char}
    (number : natOfDigits? ds = some k) (hc : isDecimalDigit c = false) :
    scanComponent mark (ds ++ c :: rest) =
      if mark c then (some ds, rest) else (none, ds ++ c :: rest) := by
  obtain ⟨htake, hdrop⟩ := cut_of_number rest number hc
  simp [scanComponent, htake, hdrop, (natOfDigits?_eq_some number).1]

/-- A component that is written is cut out. -/
theorem scanComponent_text (mark : Char → Bool) (rest : List Char) (h : ComponentText marks text n)
    (hmarks : ∀ c ∈ marks, mark c = true ∧ isDecimalDigit c = false)
    (hrest : scanComponent mark rest = (none, rest)) :
    ∃ field, Spells field n ∧ scanComponent mark (text ++ rest) = (field, rest) := by
  cases h with
  | absent => exact ⟨none, rfl, hrest⟩
  | @present ds k c number isMark =>
    obtain ⟨hc, hdigit⟩ := hmarks c isMark
    refine ⟨some ds, spells_some.mpr ⟨k, rfl, number⟩, ?_⟩
    rw [List.append_assoc, List.singleton_append, scanComponent_number number hdigit, if_pos hc]

/-- A component with another mark is left alone. -/
theorem scanComponent_other (mark : Char → Bool) (rest : List Char) (h : ComponentText marks text n)
    (hmarks : ∀ c ∈ marks, mark c = false ∧ isDecimalDigit c = false)
    (hrest : scanComponent mark rest = (none, rest)) :
    scanComponent mark (text ++ rest) = (none, text ++ rest) := by
  cases h with
  | absent => exact hrest
  | @present ds k c number isMark =>
    obtain ⟨hc, hdigit⟩ := hmarks c isMark
    rw [List.append_assoc, List.singleton_append, scanComponent_number number hdigit, hc]
    rfl

/-- What a scan cuts out: nothing, or a run of digits with a mark after it. -/
theorem scanComponent_cases (h : scanComponent mark cs = (field, rest)) :
    field = none ∧ rest = cs ∨ ∃ ds c, field = some ds ∧ ds ≠ [] ∧
      (∀ d ∈ ds, isDecimalDigit d = true) ∧ mark c = true ∧ cs = ds ++ c :: rest := by
  rw [scanComponent] at h
  split at h
  · next c rest' hdrop =>
    split at h
    · next hc =>
      rw [Bool.and_eq_true, Bool.not_eq_true', List.isEmpty_eq_false_iff] at hc
      cases h
      refine .inr ⟨_, c, rfl, hc.1, fun d => List.mem_takeWhile_imp, hc.2, ?_⟩
      rw [← hdrop, List.takeWhile_append_dropWhile]
    · cases h
      exact .inl ⟨rfl, rfl⟩
  · cases h
    exact .inl ⟨rfl, rfl⟩

/-- What is cut out makes up the text. -/
theorem componentText_of_scan (marks : List Char) (h : scanComponent mark cs = (field, rest))
    (hfield : Spells field n) (hmarks : ∀ c ∈ cs, mark c = true → c ∈ marks) :
    ∃ text, ComponentText marks text n ∧ cs = text ++ rest := by
  rcases scanComponent_cases h with ⟨rfl, rfl⟩ | ⟨ds, c, rfl, -, -, hc, rfl⟩
  · rw [spells_none.mp hfield]
    exact ⟨[], .absent, rfl⟩
  · obtain ⟨k, rfl, hk⟩ := spells_some.mp hfield
    have hmark : c ∈ marks := hmarks c (by simp) hc
    exact ⟨ds ++ [c], .present hk hmark, by simp⟩

end

/-! ## The designator form -/

/-- The form of days alone. -/
theorem scan?_of_days {cs : List Char} {days : Option (List Char)}
    (hdays : scanComponent (fun c => c == 'D' || c == 'd') cs = (days, []))
    (hsome : days.isSome = true) : DesignatorForm.scan? cs = some ⟨days, none, none, none⟩ := by
  rw [DesignatorForm.scan?, hdays]
  exact if_pos hsome

/-- The form with a T, cut component by component. -/
theorem scan?_of_time {cs rest rest₁ rest₂ rest₃ : List Char} {mark : Char}
    {days hours minutes seconds : Option (List Char)}
    (hdays : scanComponent (fun c => c == 'D' || c == 'd') cs = (days, mark :: rest))
    (hmark : isTimeMark mark = true)
    (hhours : scanComponent (fun c => c == 'H' || c == 'h') rest = (hours, rest₁))
    (hminutes : scanComponent (fun c => c == 'M' || c == 'm') rest₁ = (minutes, rest₂))
    (hseconds : scanComponent isSecondMark rest₂ = (seconds, rest₃)) :
    DesignatorForm.scan? cs =
      if rest₃.isEmpty && (hours.isSome || minutes.isSome || seconds.isSome) then
        some ⟨days, hours, minutes, seconds⟩
      else none := by
  rw [DesignatorForm.scan?, hdays]
  dsimp only
  rw [if_pos hmark, hhours, hminutes, hseconds]

/-- A form is one of days alone, or has a T. -/
theorem scan?_cases {cs : List Char} {form : DesignatorForm}
    (h : DesignatorForm.scan? cs = some form) :
    (scanComponent (fun c => c == 'D' || c == 'd') cs = (form.days, []) ∧
      form.days.isSome = true ∧ form.hours = none ∧ form.minutes = none ∧ form.seconds = none) ∨
    ∃ mark rest rest₁ rest₂,
      scanComponent (fun c => c == 'D' || c == 'd') cs = (form.days, mark :: rest) ∧
      isTimeMark mark = true ∧
      scanComponent (fun c => c == 'H' || c == 'h') rest = (form.hours, rest₁) ∧
      scanComponent (fun c => c == 'M' || c == 'm') rest₁ = (form.minutes, rest₂) ∧
      scanComponent isSecondMark rest₂ = (form.seconds, []) ∧
      (form.hours.isSome || form.minutes.isSome || form.seconds.isSome) = true := by
  rcases hdays : scanComponent (fun c => c == 'D' || c == 'd') cs with ⟨days, _ | ⟨mark, rest⟩⟩
  · rw [DesignatorForm.scan?, hdays] at h
    dsimp only at h
    split at h
    · next hsome =>
      cases h
      exact .inl ⟨rfl, hsome, rfl, rfl, rfl⟩
    · cases h
  · rcases hhours : scanComponent (fun c => c == 'H' || c == 'h') rest with ⟨hours, rest₁⟩
    rcases hminutes : scanComponent (fun c => c == 'M' || c == 'm') rest₁ with ⟨minutes, rest₂⟩
    rcases hseconds : scanComponent isSecondMark rest₂ with ⟨seconds, rest₃⟩
    cases hmark : isTimeMark mark with
    | false =>
      rw [DesignatorForm.scan?, hdays] at h
      simp [hmark] at h
    | true =>
      rw [scan?_of_time hdays hmark hhours hminutes hseconds] at h
      split at h
      · next hsome =>
        rw [Bool.and_eq_true, List.isEmpty_iff] at hsome
        cases h
        refine .inr ⟨mark, rest, rest₁, rest₂, rfl, hmark, hhours, hminutes, ?_, hsome.2⟩
        rw [hseconds, hsome.1]
      · cases h

theorem isDecimalDigit_timeMark : ∀ c ∈ ['T', 't'], isDecimalDigit c = false := by
  have hmarks : ∀ c ∈ ['T', 't'], c.toNat < 128 ∧ isAsciiDigit c = false := by decide
  exact fun c hc => isDecimalDigit_eq_false (hmarks c hc)

/-- What is written is there in the text. -/
theorem ComponentText.isSome_iff {marks text : List Char} {n : Option Nat}
    (h : ComponentText marks text n) : n.isSome = true ↔ text ≠ [] := by
  cases h <;> simp

/-- The form that a text of the grammar is cut into. -/
theorem scan?_of_timeText {ds ts : List Char} {d : Option Nat} {hours minutes seconds : Nat}
    (hdays : ComponentText ['D', 'd'] ds d) (htime : TimeText ts hours minutes seconds)
    (hwritten : ds ++ ts ≠ []) :
    ∃ form h m s, DesignatorForm.scan? (ds ++ ts) = some form ∧ Spells form.days d ∧
      Spells form.hours h ∧ Spells form.minutes m ∧ Spells form.seconds s ∧
      hours = h.getD 0 ∧ minutes = m.getD 0 ∧ seconds = s.getD 0 := by
  cases htime with
  | absent =>
    obtain ⟨days, hspells, hscan⟩ := scanComponent_text
      (fun c => c == 'D' || c == 'd') [] hdays (by decide +kernel) scanComponent_nil
    have hdaysSome : days.isSome = true := by
      rw [hspells.isSome_eq, hdays.isSome_iff]
      simpa using hwritten
    exact ⟨_, none, none, none, scan?_of_days hscan hdaysSome, hspells, rfl, rfl, rfl, rfl, rfl,
      rfl⟩
  | @present mark hs ms ss h m s isMark hours minutes seconds written =>
    have hmark : isTimeMark mark = true := by
      have hmarks : ∀ c ∈ ['T', 't'], isTimeMark c = true := by decide
      exact hmarks mark isMark
    obtain ⟨dayField, hdayField, hday⟩ := scanComponent_text
      (fun c => c == 'D' || c == 'd') (mark :: (hs ++ ms ++ ss)) hdays
      (by decide +kernel)
      (scanComponent_of_endsRun (endsRun_cons (isDecimalDigit_timeMark mark isMark)))
    -- The components that follow have other marks.
    have hskip (mark : Char → Bool) (hmark : ∀ c ∈ ['S', 's'], mark c = false) :
        scanComponent mark ss = (none, ss) := by
      have := scanComponent_other mark [] seconds
        (fun c hc => ⟨hmark c hc, by revert c; decide +kernel⟩) scanComponent_nil
      rwa [List.append_nil] at this
    obtain ⟨hourField, hhourField, hhour⟩ := scanComponent_text
      (fun c => c == 'H' || c == 'h') (ms ++ ss) hours (by decide +kernel)
      (scanComponent_other _ _ minutes (by decide +kernel) (hskip _ (by decide)))
    obtain ⟨minuteField, hminuteField, hminute⟩ := scanComponent_text
      (fun c => c == 'M' || c == 'm') ss minutes (by decide +kernel)
      (hskip _ (by decide))
    obtain ⟨secondField, hsecondField, hsecond⟩ := scanComponent_text
      isSecondMark [] seconds (by decide +kernel) scanComponent_nil
    rw [← List.append_assoc] at hhour
    rw [List.append_nil] at hsecond
    refine ⟨_, h, m, s, (scan?_of_time hday hmark hhour hminute hsecond).trans (if_pos ?_),
      hdayField, hhourField, hminuteField, hsecondField, rfl, rfl, rfl⟩
    rw [hhourField.isSome_eq, hminuteField.isSome_eq, hsecondField.isSome_eq, List.isEmpty_nil,
      Bool.true_and, Bool.or_eq_true, Bool.or_eq_true, hours.isSome_iff, minutes.isSome_iff,
      seconds.isSome_iff]
    by_contra hnone
    simp only [not_or, not_not] at hnone
    exact written (by rw [hnone.1.1, hnone.1.2, hnone.2]; rfl)

/-- What a form was cut out of, as a text of the grammar. -/
theorem designatorText_of_scan {cs : List Char} {form : DesignatorForm} {d h m s : Option Nat}
    (hscan : DesignatorForm.scan? cs = some form) (hascii : ∀ c ∈ cs, c.toNat < 128)
    (hd : Spells form.days d) (hh : Spells form.hours h) (hm : Spells form.minutes m)
    (hs : Spells form.seconds s) {mark : Char} (hmark : mark ∈ ['P', 'p']) :
    DesignatorText (mark :: cs) (totalNanos (d.getD 0) (h.getD 0) (m.getD 0) (s.getD 0) 0) := by
  rcases scan?_cases hscan with ⟨hdays, hsome, hhours, hminutes, hseconds⟩ |
    ⟨timeMark, rest, rest₁, rest₂, hdays, htime, hhours, hminutes, hseconds, hsome⟩
  · obtain ⟨text, htext, rfl⟩ := componentText_of_scan ['D', 'd'] hdays hd (by simp)
    rw [hhours, spells_none] at hh
    rw [hminutes, spells_none] at hm
    rw [hseconds, spells_none] at hs
    subst hh hm hs
    refine .intro hmark htext .absent ?_
    rw [List.append_nil, ← htext.isSome_iff, ← hd.isSome_eq]
    exact hsome
  · obtain ⟨dayText, hdayText, rfl⟩ :=
      componentText_of_scan ['D', 'd'] hdays hd (by simp)
    obtain ⟨hourText, hhourText, rfl⟩ :=
      componentText_of_scan ['H', 'h'] hhours hh (by simp)
    obtain ⟨minuteText, hminuteText, rfl⟩ :=
      componentText_of_scan ['M', 'm'] hminutes hm (by simp)
    obtain ⟨secondText, hsecondText, rfl⟩ :=
      componentText_of_scan ['S', 's'] hseconds hs fun c hc hcmark => by
        -- The long s is not ASCII.
        have hlt : c.toNat < 128 := hascii c (by simp [hc])
        simp only [isSecondMark, Bool.or_eq_true, beq_iff_eq] at hcmark
        rcases hcmark with (rfl | rfl) | rfl
        · decide
        · decide
        · exact absurd hlt (by decide)
    have htimeMark : timeMark ∈ ['T', 't'] := by simpa [isTimeMark] using htime
    rw [List.append_nil, ← List.append_assoc]
    refine .intro hmark hdayText
      (.present htimeMark hhourText hminuteText hsecondText fun hnone => ?_) (by simp)
    simp only [List.append_eq_nil_iff] at hnone
    rw [Bool.or_eq_true, Bool.or_eq_true, hh.isSome_eq, hm.isSome_eq, hs.isSome_eq,
      hhourText.isSome_iff, hminuteText.isSome_iff, hsecondText.isSome_iff] at hsome
    rcases hsome with (hsome | hsome) | hsome
    · exact hsome hnone.1.1
    · exact hsome hnone.1.2
    · exact hsome hnone.2

/-! ### Years and months -/

theorem hasYearOrMonth_eq_false {cs : List Char} (h : ∀ c ∈ cs, isYearOrMonth c = false) :
    hasYearOrMonth cs = false := by
  fun_induction hasYearOrMonth cs with
  | case1 c d cs ih =>
    rw [h d (by simp), ih fun c hc => h c (List.mem_cons_of_mem _ hc), Bool.and_false]
    rfl
  | case2 => rfl

/-- A number is made of no letters. -/
theorem not_letter_of_isAsciiDigit {c : Char} (h : isAsciiDigit c = true) :
    isTimeMark c = false ∧ isYearOrMonth c = false := by
  obtain ⟨hlow, hhigh⟩ := toNat_of_isAsciiDigit h
  constructor <;> rw [← Bool.not_eq_true] <;> intro hletter
  · simp only [isTimeMark, Bool.or_eq_true, beq_iff_eq] at hletter
    rcases hletter with rfl | rfl <;> exact absurd hhigh (by decide)
  · simp only [isYearOrMonth, Bool.or_eq_true, beq_iff_eq] at hletter
    rcases hletter with ((rfl | rfl) | rfl) | rfl <;> exact absurd hhigh (by decide)

theorem not_letter_of_mem_days {ds : List Char} {d : Option Nat}
    (h : ComponentText ['D', 'd'] ds d) :
    ∀ c ∈ ds, isTimeMark c = false ∧ isYearOrMonth c = false := by
  cases h with
  | absent => nofun
  | @present digits n mark number isMark =>
    intro c hc
    rcases List.mem_append.mp hc with hc | hc
    · exact not_letter_of_isAsciiDigit (isAsciiDigit_of_number number c hc)
    · have hmarks : ∀ c ∈ ['D', 'd'], isTimeMark c = false ∧ isYearOrMonth c = false := by decide
      exact hmarks c (List.mem_singleton.mp hc ▸ isMark)

/-- In the designator form no years or months come before the T. -/
theorem hasYearOrMonth_of_timeText {ds ts : List Char} {d : Option Nat} {h m s : Nat}
    (hdays : ComponentText ['D', 'd'] ds d) (htime : TimeText ts h m s) :
    hasYearOrMonth ((ds ++ ts).takeWhile fun c => !isTimeMark c) = false := by
  have hletters := not_letter_of_mem_days hdays
  have htake : (ds ++ ts).takeWhile (fun c => !isTimeMark c) = ds := by
    rw [List.takeWhile_append_of_pos fun c hc => by simp [(hletters c hc).1]]
    cases htime with
    | absent => simp
    | @present mark hs ms ss h m s isMark =>
      have hmark : isTimeMark mark = true := by simpa [isTimeMark] using isMark
      rw [List.takeWhile_cons_of_neg (by simp [hmark]), List.append_nil]
  rw [htake]
  exact hasYearOrMonth_eq_false fun c hc => (hletters c hc).2

/-! ### Reading -/

/-- Reading the designator form is adding up its components. -/
theorem readDesignators_of_scan {mark : Char} {cs : List Char} {form : DesignatorForm}
    {days hours minutes seconds : Int}
    (hletters : hasYearOrMonth (cs.takeWhile fun c => !isTimeMark c) = false)
    (hscan : DesignatorForm.scan? cs = some form) (hdays : componentValue form.days = .ok days)
    (hhours : componentValue form.hours = .ok hours)
    (hminutes : componentValue form.minutes = .ok minutes)
    (hseconds : componentValue form.seconds = .ok seconds) :
    readDesignators (mark :: cs) =
      match ofComponents? false days hours minutes seconds 0 with
      | some d => .ok d
      | none => .error (.outOfRange (String.ofList (mark :: cs))) := by
  rw [readDesignators, List.tail_cons, hletters, if_neg Bool.false_ne_true, hscan]
  dsimp only
  rw [hdays, hhours, hminutes, hseconds]
  rfl

theorem readDesignators_eq_ok_iff {mark : Char} {cs : List Char} {d : Duration}
    (hmark : mark ∈ ['P', 'p']) (hascii : ∀ c ∈ cs, c.toNat < 128) :
    readDesignators (mark :: cs) = .ok d ↔ ∃ n : Nat, DesignatorText (mark :: cs) n ∧
      (n : Int) ≤ maxNanos ∧ d.nanos = n := by
  constructor
  · intro h
    rw [readDesignators, List.tail_cons] at h
    split at h
    · cases h
    · split at h
      · cases h
      · next form hscan =>
        obtain ⟨days, hdays, h⟩ := bind_eq_ok_iff.mp h
        obtain ⟨hours, hhours, h⟩ := bind_eq_ok_iff.mp h
        obtain ⟨minutes, hminutes, h⟩ := bind_eq_ok_iff.mp h
        obtain ⟨seconds, hseconds, h⟩ := bind_eq_ok_iff.mp h
        obtain ⟨dn, hdn, rfl⟩ := spells_of_componentValue hdays
        obtain ⟨hn, hhn, rfl⟩ := spells_of_componentValue hhours
        obtain ⟨mn, hmn, rfl⟩ := spells_of_componentValue hminutes
        obtain ⟨sn, hsn, rfl⟩ := spells_of_componentValue hseconds
        split at h
        · next d' hd' =>
          cases h
          obtain ⟨hle, hd⟩ := ofComponents?_whole_eq_some_iff.mp hd'
          rw [if_neg Bool.false_ne_true] at hd
          exact ⟨_, designatorText_of_scan hscan hascii hdn hhn hmn hsn hmark, hle, hd⟩
        · cases h
  · rintro ⟨n, htext, hle, hd⟩
    cases htext with
    | @intro _ ds ts days hours minutes seconds _ hdays htime hwritten =>
      obtain ⟨form, h, m, s, hscan, hdn, hhn, hmn, hsn, rfl, rfl, rfl⟩ :=
        scan?_of_timeText hdays htime hwritten
      obtain ⟨hdays₆₃, hhours₆₃, hminutes₆₃, hseconds₆₃⟩ := components_le hle
      have hsum : ofComponents? false (days.getD 0 : Nat) (h.getD 0 : Nat) (m.getD 0 : Nat)
          (s.getD 0 : Nat) 0 = some d :=
        ofComponents?_whole_eq_some_iff.mpr ⟨hle, by rw [if_neg Bool.false_ne_true, hd]⟩
      rw [readDesignators_of_scan (hasYearOrMonth_of_timeText hdays htime) hscan
        (componentValue_of_spells hdn hdays₆₃) (componentValue_of_spells hhn hhours₆₃)
        (componentValue_of_spells hmn hminutes₆₃) (componentValue_of_spells hsn hseconds₆₃), hsum]

end RecordSieve.Duration
