/-
RecordSieve.Proofs.Duration.Elapsed — reading a time that has passed.

A text that has no P in front is a number of days or a time that has
passed, after an optional minus sign.  Its fields are digits up to the
next point or colon, and so the text says where each of them ends: what
the scanners find is what the grammar has (`passedText_of_scan`), and they
find all that the grammar has (`scan?_of_clock`).  The two forms do not
overlap, for only one of them has a colon.
-/
import RecordSieve.Proofs.Calendar.NumericScan
import RecordSieve.Proofs.Duration.Grammar

namespace RecordSieve.Duration

open RecordSieve.Text RecordSieve.Decimal RecordSieve.Calendar

section

variable {comma negative : Bool} {cs rest ds hs ms ss : List Char} {n : Nat}

/-! ## Fields -/

/-- A field of digits up to a character that is none. -/
theorem digitField?_of_number {most : Nat} (number : natOfDigits? ds = some n)
    (hlength : ds.length ≤ most) (hrest : EndsRun rest) :
    digitField? 1 most (ds ++ rest) = some (ds, rest) := by
  obtain ⟨hne, hds, -⟩ := natOfDigits?_eq_some number
  rw [digitField?, takeDigits_run hds hlength hrest]
  exact if_pos (List.length_pos_iff.mpr hne)

theorem ClockField.digitField?_eq {most : Nat} (h : ClockField most ds n) (hrest : EndsRun rest) :
    digitField? 1 2 (ds ++ rest) = some (ds, rest) :=
  digitField?_of_number h.number h.short hrest

theorem ClockField.fieldValue?_eq {most : Nat} (h : ClockField most ds n) (hmost : most ≤ 59) :
    fieldValue? ds = some (n : Int) :=
  fieldValue?_of_le h.number (Nat.le_trans (Nat.le_trans h.le hmost) (by decide))

theorem clockField_of_scan {i : Int} (most : Nat) (hscan : digitField? 1 2 cs = some (ds, rest))
    (hvalue : fieldValue? ds = some i) (hle : i ≤ most) :
    ∃ n : Nat, ClockField most ds n ∧ i = n ∧ cs = ds ++ rest := by
  obtain ⟨n, hn, rfl⟩ := fieldValue?_eq_some hvalue
  obtain ⟨-, -, hshort, happend⟩ := digitField?_eq_some hscan
  exact ⟨n, ⟨hn, hshort, Int.ofNat_le.mp hle⟩, rfl, happend.symm⟩

/-! ## Days -/

theorem isDecimalDigit_marks :
    ∀ c ∈ [':', '.', ',', '-', 'P', 'p'], isDecimalDigit c = false := by
  have hmarks : ∀ c ∈ [':', '.', ',', '-', 'P', 'p'], c.toNat < 128 ∧ isAsciiDigit c = false := by
    decide
  exact fun c hc => isDecimalDigit_eq_false (hmarks c hc)

theorem scanDays_text {d h : Nat} (rest : List Char) (hdays : DaysText ds d)
    (hd : d ≤ 9223372036854775807) (hhours : natOfDigits? hs = some h) :
    ∃ field, scanDays (ds ++ (hs ++ ':' :: rest)) = (field, hs ++ ':' :: rest) ∧
      field.elim (some 0) fieldValue? = some (d : Int) := by
  cases hdays with
  | absent =>
    obtain ⟨-, hdrop⟩ := cut_of_number rest hhours (isDecimalDigit_marks ':' (by simp))
    exact ⟨none, by rw [List.nil_append, scanDays, hdrop]; simp, rfl⟩
  | @present digits _ number =>
    obtain ⟨htake, hdrop⟩ := cut_of_number (hs ++ ':' :: rest) number
      (isDecimalDigit_marks '.' (by simp))
    refine ⟨some digits, ?_, fieldValue?_of_le number hd⟩
    rw [List.append_assoc, List.singleton_append, scanDays, hdrop, htake]
    exact if_neg (by simpa using (natOfDigits?_eq_some number).1)

theorem daysText_of_scan {field : Option (List Char)} {i : Int}
    (hscan : scanDays cs = (field, rest)) (hvalue : field.elim (some 0) fieldValue? = some i) :
    ∃ ds, ∃ d : Nat, DaysText ds d ∧ i = d ∧ cs = ds ++ rest := by
  have hcs : cs.takeWhile isDecimalDigit ++ cs.dropWhile isDecimalDigit = cs :=
    List.takeWhile_append_dropWhile
  rw [scanDays] at hscan
  split at hscan
  · next rest' hdrop =>
    dsimp only at hscan
    split at hscan
    · cases hscan
      cases hvalue
      exact ⟨[], 0, .absent, rfl, rfl⟩
    · cases hscan
      obtain ⟨d, hd, rfl⟩ := fieldValue?_eq_some hvalue
      refine ⟨_, d, .present hd, rfl, ?_⟩
      rw [List.append_assoc, List.singleton_append, ← hdrop, hcs]
  · cases hscan
    cases hvalue
    exact ⟨[], 0, .absent, rfl, rfl⟩

/-! ## Seconds -/

theorem scanSeconds?_text {s nanos : Nat} (h : SecondsText comma ss s nanos) :
    ∃ seconds fraction, scanSeconds? comma ss = some (seconds, fraction) ∧
      seconds.elim (some 0) fieldValue? = some (s : Int) ∧ s ≤ 59 ∧
      fraction.elim (some 0) (fractionNanos? 7) = some nanos := by
  cases h with
  | absent => exact ⟨none, none, rfl, rfl, by decide, rfl⟩
  | @present digits fs _ _ seconds fraction =>
    cases fraction with
    | absent =>
      refine ⟨some digits, none, ?_, seconds.fieldValue?_eq (by decide), seconds.le, rfl⟩
      rw [scanSeconds?, seconds.digitField?_eq endsRun_nil]
      rfl
    | @present mark fractionDigits k isMark number short =>
      have hmark : isDecimalDigit mark = false := by
        rcases isMark with rfl | ⟨-, rfl⟩ <;> exact isDecimalDigit_marks _ (by simp)
      have hseparates : (mark == '.' || comma && mark == ',') = true := by
        rcases isMark with rfl | ⟨hcomma, rfl⟩
        · rfl
        · simp [hcomma]
      have hends : EndsRun (mark :: fractionDigits) := endsRun_cons hmark
      have hfield := seconds.digitField?_eq hends
      have hfraction := digitField?_of_number number short endsRun_nil
      rw [List.append_nil] at hfraction
      refine ⟨some digits, some fractionDigits, ?_, seconds.fieldValue?_eq (by decide), seconds.le,
        fractionNanos?_of_le number short⟩
      rw [scanSeconds?, hfield]
      simp only [Option.bind_eq_bind, Option.bind_some, hseparates, hfraction, List.isEmpty_nil,
        if_true, Option.pure_def]

/-- Where the scanner of seconds cuts a text: not at all, after the seconds,
or before a fraction as well. -/
inductive SecondsCut (comma : Bool) :
    List Char → Option (List Char) → Option (List Char) → Prop
  | absent : SecondsCut comma [] none none
  | whole {cs ss : List Char} (seconds : digitField? 1 2 cs = some (ss, [])) :
      SecondsCut comma (':' :: cs) (some ss) none
  | fraction {cs ss fs : List Char} {mark : Char}
      (seconds : digitField? 1 2 cs = some (ss, mark :: fs))
      (isMark : mark = '.' ∨ comma = true ∧ mark = ',')
      (digits : digitField? 1 7 fs = some (fs, [])) :
      SecondsCut comma (':' :: cs) (some ss) (some fs)

theorem secondsCut_of_scan {seconds fraction : Option (List Char)}
    (h : scanSeconds? comma cs = some (seconds, fraction)) : SecondsCut comma cs seconds fraction := by
  unfold scanSeconds? at h
  split at h
  · cases h
    exact .absent
  · obtain ⟨⟨ss, rest⟩, hss, h⟩ := Option.bind_eq_some_iff.mp h
    dsimp only at h
    split at h
    · cases h
      exact .whole hss
    · split at h
      · next hmark =>
        obtain ⟨⟨fs, rest'⟩, hfs, h⟩ := Option.bind_eq_some_iff.mp h
        dsimp only at h
        split at h
        · next hend =>
          rw [List.isEmpty_iff] at hend
          subst hend
          cases h
          have happend := (digitField?_eq_some hfs).2.2.2
          rw [List.append_nil] at happend
          subst happend
          exact .fraction hss (by simpa using hmark) hfs
        · cases h
      · cases h
  · cases h

theorem secondsText_of_scan {seconds fraction : Option (List Char)} {i : Int} {nanos : Nat}
    (hscan : scanSeconds? comma cs = some (seconds, fraction))
    (hseconds : seconds.elim (some 0) fieldValue? = some i) (hle : i ≤ 59)
    (hfraction : fraction.elim (some 0) (fractionNanos? 7) = some nanos) :
    ∃ s : Nat, SecondsText comma cs s nanos ∧ i = s := by
  cases secondsCut_of_scan hscan with
  | absent =>
    cases hseconds
    cases hfraction
    exact ⟨0, .absent, rfl⟩
  | whole hss =>
    cases hfraction
    obtain ⟨s, hfield, rfl, hcs⟩ := clockField_of_scan 59 hss hseconds hle
    exact ⟨s, hcs ▸ .present hfield .absent, rfl⟩
  | fraction hss hmark hfs =>
    obtain ⟨s, hfield, rfl, rfl⟩ := clockField_of_scan 59 hss hseconds hle
    have hshort := (digitField?_eq_some hfs).2.2.1
    rw [Option.elim_some, fractionNanos?_eq, if_pos hshort] at hfraction
    obtain ⟨k, hk, rfl⟩ := Option.map_eq_some_iff.mp hfraction
    exact ⟨s, .present hfield (.present hmark hk hshort), rfl⟩

/-! ## The sign -/

theorem dropMinus_of_ne {c : Char} (h : c ≠ '-') : dropMinus (c :: cs) = (false, c :: cs) := by
  rw [dropMinus.eq_def]
  split
  · next heq =>
    cases heq
    exact absurd rfl h
  · rfl

theorem dropMinus_append (cs : List Char) :
    cs = (if (dropMinus cs).1 then ['-'] else []) ++ (dropMinus cs).2 := by
  unfold dropMinus
  split <;> rfl

/-- What has passed starts with a digit. -/
theorem PassedText.exists_cons (h : PassedText comma cs n) :
    ∃ c rest, cs = c :: rest ∧ isAsciiDigit c = true := by
  have hnumber : ∀ {ds : List Char} {k : Nat} (rest : List Char), natOfDigits? ds = some k →
      ∃ c tail, ds ++ rest = c :: tail ∧ isAsciiDigit c = true := by
    intro ds k rest hk
    cases ds with
    | nil => exact absurd rfl (natOfDigits?_eq_some hk).1
    | cons c ds => exact ⟨c, ds ++ rest, rfl, isAsciiDigit_of_number hk c List.mem_cons_self⟩
  cases h with
  | clock days hours minutes seconds =>
    cases days with
    | absent =>
      rw [List.nil_append]
      exact hnumber _ hours.number
    | present number =>
      rw [List.append_assoc]
      exact hnumber _ number
  | days number => exact List.append_nil cs ▸ hnumber [] number

theorem PassedText.dropMinus_eq (h : PassedText comma cs n) : dropMinus cs = (false, cs) := by
  obtain ⟨c, rest, rfl, hc⟩ := h.exists_cons
  refine dropMinus_of_ne fun heq => ?_
  subst heq
  cases hc

/-! ## The clock -/

theorem SecondsText.endsRun {s nanos : Nat} (h : SecondsText comma ss s nanos) : EndsRun ss := by
  cases h with
  | absent => exact endsRun_nil
  | present => exact endsRun_colon _

/-- A time that has passed is cut into its fields, and they have values. -/
theorem scan?_of_clock {d h m s nanos : Nat} (days : DaysText ds d)
    (hd : d ≤ 9223372036854775807) (hours : ClockField 23 hs h) (minutes : ClockField 59 ms m)
    (seconds : SecondsText comma ss s nanos)
    (hcs : dropMinus cs = (negative, ds ++ (hs ++ ':' :: (ms ++ ss)))) :
    ∃ form, ElapsedForm.scan? comma cs = some form ∧ form.negative = negative ∧
      form.components? = some ((d : Int), (h : Int), (m : Int), (s : Int), (nanos : Int)) := by
  obtain ⟨dayField, hdays, hdayValue⟩ := scanDays_text (ms ++ ss) days hd hours.number
  obtain ⟨secondField, fraction, hseconds, hsecondValue, hle, hfraction⟩ :=
    scanSeconds?_text seconds
  refine ⟨⟨negative, dayField, hs, ms, secondField, fraction⟩, ?_, rfl, ?_⟩
  · rw [ElapsedForm.scan?, hcs]
    dsimp only
    rw [hdays]
    dsimp only
    rw [hours.digitField?_eq (endsRun_colon _)]
    simp only [Option.bind_eq_bind, Option.bind_some, dropChar?, beq_self_eq_true, if_true,
      minutes.digitField?_eq seconds.endsRun, hseconds, Option.pure_def]
  · have hclock : (decide ((h : Int) ≤ 23) && decide ((m : Int) ≤ 59) && decide ((s : Int) ≤ 59)) =
        true := by
      have hh := hours.le
      have hm := minutes.le
      simp only [Bool.and_eq_true, decide_eq_true_eq]
      omega
    simp only [ElapsedForm.components?, hdayValue, hours.fieldValue?_eq (by decide),
      minutes.fieldValue?_eq (by decide), hsecondValue, hfraction, Option.bind_eq_bind,
      Option.bind_some, hclock, if_true, Option.pure_def]

theorem scan?_eq_some {form : ElapsedForm} (h : ElapsedForm.scan? comma cs = some form) :
    ∃ rest rest₁ rest₂ rest₃, dropMinus cs = (form.negative, rest) ∧
      scanDays rest = (form.days, rest₁) ∧
      digitField? 1 2 rest₁ = some (form.hours, ':' :: rest₂) ∧
      digitField? 1 2 rest₂ = some (form.minutes, rest₃) ∧
      scanSeconds? comma rest₃ = some (form.seconds, form.fraction) := by
  rcases hsign : dropMinus cs with ⟨negative, rest⟩
  rcases hdays : scanDays rest with ⟨days, rest₁⟩
  rw [ElapsedForm.scan?, hsign] at h
  dsimp only at h
  rw [hdays] at h
  obtain ⟨⟨hours, rest₂⟩, hhours, h⟩ := Option.bind_eq_some_iff.mp h
  obtain ⟨rest₃, hcolon, h⟩ := Option.bind_eq_some_iff.mp h
  obtain ⟨⟨minutes, rest₄⟩, hminutes, h⟩ := Option.bind_eq_some_iff.mp h
  obtain ⟨⟨seconds, fraction⟩, hseconds, h⟩ := Option.bind_eq_some_iff.mp h
  cases h
  obtain ⟨colon, rfl, hmark⟩ := dropChar?_eq_some hcolon
  rw [eq_of_beq hmark] at hhours
  exact ⟨rest, rest₁, rest₃, rest₄, rfl, hdays, hhours, hminutes, hseconds⟩

theorem components?_eq_some {form : ElapsedForm} {i j k l o : Int}
    (h : form.components? = some (i, j, k, l, o)) :
    form.days.elim (some 0) fieldValue? = some i ∧ fieldValue? form.hours = some j ∧
      fieldValue? form.minutes = some k ∧ form.seconds.elim (some 0) fieldValue? = some l ∧
      j ≤ 23 ∧ k ≤ 59 ∧ l ≤ 59 ∧
      ∃ nanos : Nat, form.fraction.elim (some 0) (fractionNanos? 7) = some nanos ∧ o = nanos := by
  obtain ⟨days, hdays, h⟩ := Option.bind_eq_some_iff.mp h
  obtain ⟨hours, hhours, h⟩ := Option.bind_eq_some_iff.mp h
  obtain ⟨minutes, hminutes, h⟩ := Option.bind_eq_some_iff.mp h
  obtain ⟨seconds, hseconds, h⟩ := Option.bind_eq_some_iff.mp h
  split at h
  · next hclock =>
    simp only [Bool.and_eq_true, decide_eq_true_eq] at hclock
    obtain ⟨nanos, hnanos, h⟩ := Option.bind_eq_some_iff.mp h
    simp only [Option.pure_def, Option.some.injEq, Prod.mk.injEq] at h
    obtain ⟨rfl, rfl, rfl, rfl, rfl⟩ := h
    exact ⟨hdays, hhours, hminutes, hseconds, hclock.1.1, hclock.1.2, hclock.2, nanos, hnanos, rfl⟩
  · cases h

/-- The fields that are found, and have values, make up the text after its sign. -/
theorem passedText_of_scan {form : ElapsedForm} {i j k l o : Int}
    (hscan : ElapsedForm.scan? comma cs = some form)
    (hvalues : form.components? = some (i, j, k, l, o)) :
    ∃ rest, ∃ d h m s nanos : Nat, dropMinus cs = (form.negative, rest) ∧
      PassedText comma rest (totalNanos d h m s nanos) ∧ i = d ∧ j = h ∧ k = m ∧ l = s ∧
      o = nanos := by
  obtain ⟨rest, rest₁, rest₂, rest₃, hsign, hdays, hhours, hminutes, hseconds⟩ :=
    scan?_eq_some hscan
  obtain ⟨hdayValue, hhourValue, hminuteValue, hsecondValue, hj, hk, hl, nanos, hnanos, rfl⟩ :=
    components?_eq_some hvalues
  obtain ⟨ds, d, hd, rfl, rfl⟩ := daysText_of_scan hdays hdayValue
  obtain ⟨h, hh, rfl, rfl⟩ := clockField_of_scan 23 hhours hhourValue hj
  obtain ⟨m, hm, rfl, rfl⟩ := clockField_of_scan 59 hminutes hminuteValue hk
  obtain ⟨s, hs, rfl⟩ := secondsText_of_scan hseconds hsecondValue hl hnanos
  exact ⟨_, d, h, m, s, nanos, hsign, .clock hd hh hm hs, rfl, rfl, rfl, rfl, rfl⟩

/-! ## Reading -/

theorem scanDayCount?_eq_some_iff : scanDayCount? cs = some (negative, ds) ↔
    dropMinus cs = (negative, ds) ∧ ds ≠ [] ∧ ∀ d ∈ ds, isDecimalDigit d = true := by
  rcases hsign : dropMinus cs with ⟨sign, rest⟩
  rw [scanDayCount?, hsign, Option.ite_none_right_eq_some, Bool.and_eq_true, Bool.not_eq_true',
    List.isEmpty_eq_false_iff, List.all_eq_true, Option.some.injEq, and_comm]
  refine and_congr_right fun heq => ?_
  cases heq
  rfl

theorem scanDayCount?_of_number (hcs : dropMinus cs = (negative, ds))
    (number : natOfDigits? ds = some n) : scanDayCount? cs = some (negative, ds) :=
  scanDayCount?_eq_some_iff.mpr
    ⟨hcs, (natOfDigits?_eq_some number).1, isDecimalDigit_of_number number⟩

/-- A text with a colon is no number of days. -/
theorem scanDayCount?_of_colon (hcs : dropMinus cs = (negative, rest)) (hcolon : ':' ∈ rest) :
    scanDayCount? cs = none := by
  have hdigits : rest.all isDecimalDigit = false := by
    rw [List.all_eq_false]
    exact ⟨':', hcolon, by simp [isDecimalDigit_marks ':' (by simp)]⟩
  rw [scanDayCount?, hcs]
  simp [hdigits]

/-- Reading a number of days. -/
theorem readElapsed_of_days {i : Int} (hscan : scanDayCount? cs = some (negative, ds))
    (hvalue : fieldValue? ds = some i) :
    readElapsed comma cs =
      match ofComponents? negative i 0 0 0 0 with
      | some d => .ok d
      | none => .error (.outOfRange (String.ofList cs)) := by
  cases hsum : ofComponents? negative i 0 0 0 0 <;>
    simp only [readElapsed, hscan, hvalue, Option.bind_some, hsum]

/-- Reading a time that has passed is adding up its fields. -/
theorem readElapsed_of_fields {form : ElapsedForm} {i j k l o : Int}
    (hcount : scanDayCount? cs = none) (hscan : ElapsedForm.scan? comma cs = some form)
    (hvalues : form.components? = some (i, j, k, l, o)) :
    readElapsed comma cs =
      match ofComponents? form.negative i j k l o with
      | some d => .ok d
      | none => .error (.outOfRange (String.ofList cs)) := by
  cases hsum : ofComponents? form.negative i j k l o <;>
    simp only [readElapsed, hcount, hscan, hvalues, hsum]

/-- Whatever is read is one of the two. -/
theorem readElapsed_cases {d : Duration} (h : readElapsed comma cs = .ok d) :
    (∃ negative ds i, scanDayCount? cs = some (negative, ds) ∧ fieldValue? ds = some i ∧
      ofComponents? negative i 0 0 0 0 = some d) ∨
    ∃ form i j k l o, ElapsedForm.scan? comma cs = some form ∧
      form.components? = some (i, j, k, l, o) ∧ ofComponents? form.negative i j k l o = some d := by
  rw [readElapsed] at h
  split at h
  · next negative digits hscan =>
    split at h
    · next d' hd' =>
      cases h
      obtain ⟨i, hi, hsum⟩ := Option.bind_eq_some_iff.mp hd'
      exact .inl ⟨negative, digits, i, hscan, hi, hsum⟩
    · cases h
  · split at h
    · cases h
    · next form hscan =>
      split at h
      · cases h
      · next i j k l o hvalues =>
        split at h
        · next d' hsum =>
          cases h
          exact .inr ⟨form, i, j, k, l, o, hscan, hvalues, hsum⟩
        · cases h

/-- A text without P is a duration exactly if a time that has passed, or a
number of days, stands behind its sign, with an amount in range. -/
theorem readElapsed_eq_ok_iff {d : Duration} :
    readElapsed comma cs = .ok d ↔ ∃ negative rest, ∃ n : Nat,
      dropMinus cs = (negative, rest) ∧ PassedText comma rest n ∧ (n : Int) ≤ maxNanos ∧
      d.nanos = if negative then -(n : Int) else n := by
  constructor
  · intro h
    rcases readElapsed_cases h with ⟨negative, digits, i, hscan, hvalue, hsum⟩ |
      ⟨form, i, j, k, l, o, hscan, hvalues, hsum⟩
    · obtain ⟨n, hn, rfl⟩ := fieldValue?_eq_some hvalue
      obtain ⟨hle, hd⟩ := ofComponents?_days_eq_some_iff.mp hsum
      exact ⟨negative, digits, _, (scanDayCount?_eq_some_iff.mp hscan).1, .days hn, hle, hd⟩
    · obtain ⟨rest, _, _, _, _, _, hsign, htext, rfl, rfl, rfl, rfl, rfl⟩ :=
        passedText_of_scan hscan hvalues
      obtain ⟨hle, hd⟩ := ofComponents?_eq_some_iff.mp hsum
      exact ⟨form.negative, rest, _, hsign, htext, hle, hd⟩
  · rintro ⟨negative, rest, n, hsign, htext, hle, hd⟩
    cases htext with
    | clock days hours minutes seconds =>
      obtain ⟨form, hscan, rfl, hvalues⟩ :=
        scan?_of_clock days (components_le hle).1 hours minutes seconds hsign
      rw [readElapsed_of_fields (scanDayCount?_of_colon hsign (by simp)) hscan hvalues,
        ofComponents?_eq_some_iff.mpr ⟨hle, hd⟩]
    | days number =>
      rw [readElapsed_of_days (scanDayCount?_of_number hsign number)
        (fieldValue?_of_le number (components_le hle).1),
        ofComponents?_days_eq_some_iff.mpr ⟨hle, hd⟩]

end

end RecordSieve.Duration
