/-
RecordSieve.Proofs.Duration.Refusal — why a text is no duration.

A text is refused for one of three causes: it counts years or months, its
amount is out of range, or it is not written as a duration.  The grammar
says which (`read_error_cause`).  Years and months are looked for first,
and no text of the grammar has them.  A text of the grammar that is
refused is out of range, with one exception: where the days of a time
that has passed do not fit 63 bits (`LongDays`), the text counts as not
written as a duration.  Days that do fit are added up, and then it is the
sum that is out of range; and a bare number of days, or a component of the
designator form, that does not fit is out of range as well.
-/
import RecordSieve.Proofs.Calendar.Fallback
import RecordSieve.Proofs.Duration.Reading

namespace RecordSieve.Duration

open RecordSieve.Text RecordSieve.Decimal RecordSieve.Calendar

/-! ## Years and months -/

/-- The text starts with P, and before any T a digit is followed by the
designator of years or months. -/
def NamesYearOrMonth (cs : List Char) : Prop :=
  ∃ mark front digit letter rest, cs = mark :: (front ++ digit :: letter :: rest) ∧
    mark ∈ ['P', 'p'] ∧ (∀ c ∈ front, c ∉ ['T', 't']) ∧ isAsciiDigit digit = true ∧
    letter ∈ ['Y', 'y', 'M', 'm']

section

variable {comma negative : Bool} {mark : Char} {cs rest ds : List Char} {n : Nat}
  {e : CoercionError}

theorem hasYearOrMonth_iff : hasYearOrMonth cs = true ↔ ∃ front digit letter rest,
    cs = front ++ digit :: letter :: rest ∧ isDecimalDigit digit = true ∧
      isYearOrMonth letter = true := by
  fun_induction hasYearOrMonth cs with
  | case1 c d cs ih =>
    rw [Bool.or_eq_true, Bool.and_eq_true, ih]
    constructor
    · rintro (⟨hdigit, hletter⟩ | ⟨front, digit, letter, rest, heq, hdigit, hletter⟩)
      · exact ⟨[], c, d, cs, rfl, hdigit, hletter⟩
      · exact ⟨c :: front, digit, letter, rest, congrArg (c :: ·) heq, hdigit, hletter⟩
    · rintro ⟨front, digit, letter, rest, heq, hdigit, hletter⟩
      cases front with
      | nil =>
        cases heq
        exact .inl ⟨hdigit, hletter⟩
      | cons a front => exact .inr ⟨front, digit, letter, rest, (List.cons.inj heq).2, hdigit, hletter⟩
  | case2 cs hshort =>
    refine iff_of_false Bool.false_ne_true ?_
    rintro ⟨front, digit, letter, rest, rfl, -, -⟩
    rcases front with _ | ⟨a, _ | ⟨b, front⟩⟩
    · exact hshort _ _ _ rfl
    · exact hshort _ _ _ rfl
    · exact hshort _ _ _ rfl

theorem not_isTimeMark_iff {c : Char} : (!isTimeMark c) = true ↔ c ∉ ['T', 't'] := by
  simp [isTimeMark]

theorem namesYearOrMonth_iff (hmark : mark ∈ ['P', 'p']) (hascii : ∀ c ∈ cs, c.toNat < 128) :
    NamesYearOrMonth (mark :: cs) ↔
      hasYearOrMonth (cs.takeWhile fun c => !isTimeMark c) = true := by
  rw [hasYearOrMonth_iff]
  constructor
  · rintro ⟨_, front, digit, letter, rest, heq, -, hfront, hdigit, hletter⟩
    obtain ⟨rfl, rfl⟩ := List.cons.inj heq
    have hletters : ∀ c ∈ ['Y', 'y', 'M', 'm'], isTimeMark c = false ∧ isYearOrMonth c = true := by
      decide
    obtain ⟨hnotMark, hyear⟩ := hletters letter hletter
    refine ⟨front, digit, letter, rest.takeWhile fun c => !isTimeMark c, ?_,
      isDecimalDigit_of_isAsciiDigit hdigit, hyear⟩
    rw [List.takeWhile_append_of_pos fun c hc => not_isTimeMark_iff.mpr (hfront c hc),
      List.takeWhile_cons_of_pos (by simp [(not_letter_of_isAsciiDigit hdigit).1]),
      List.takeWhile_cons_of_pos (by simp [hnotMark])]
  · rintro ⟨front, digit, letter, rest, htake, hdigit, hletter⟩
    have hcs : cs = front ++ digit :: letter :: (rest ++ cs.dropWhile fun c => !isTimeMark c) := by
      conv_lhs => rw [← List.takeWhile_append_dropWhile (p := fun c => !isTimeMark c) (l := cs), htake]
      simp
    have hfront : ∀ c ∈ front, c ∉ ['T', 't'] := fun c hc =>
      not_isTimeMark_iff.mp (List.mem_takeWhile_imp (p := fun c => !isTimeMark c) (l := cs)
        (htake ▸ List.mem_append_left _ hc))
    refine ⟨mark, front, digit, letter, _, congrArg (mark :: ·) hcs, hmark, hfront, ?_, ?_⟩
    · exact isAsciiDigit_of_ascii hdigit (hascii digit (by rw [hcs]; simp))
    · simpa [isYearOrMonth, or_assoc] using hletter

/-! ## The designator form -/

/-- What is named as out of range: the whole text, or a number in it that
has more than 63 bits. -/
def NamesAmount (cs : List Char) (named : String) : Prop :=
  named = String.ofList cs ∨ named.toList <:+: cs ∧
    ∃ n, natOfDigits? named.toList = some n ∧ 9223372036854775807 < n

/-- The components of the form, in their order. -/
def DesignatorForm.fields (form : DesignatorForm) : List (Option (List Char)) :=
  [form.days, form.hours, form.minutes, form.seconds]

/-- A component is cut out of the front of the text, as digits with a mark
after them. -/
theorem scanComponent_cut {isMark : Char → Bool} {field : Option (List Char)}
    (h : scanComponent isMark cs = (field, rest)) :
    rest <:+ cs ∧ ∀ ds, field = some ds → IsField ds ∧ ds <:+: cs := by
  rcases scanComponent_cases h with ⟨rfl, rfl⟩ | ⟨ds, c, rfl, hne, hdigits, -, rfl⟩
  · exact ⟨List.suffix_refl _, fun ds hds => by cases hds⟩
  · refine ⟨⟨ds ++ [c], by simp⟩, fun ds' hds => ?_⟩
    cases hds
    exact ⟨⟨hne, hdigits⟩, (List.prefix_append ds (c :: rest)).isInfix⟩

/-- The components of a form are digits of its text. -/
theorem DesignatorForm.isField_of_scan {form : DesignatorForm}
    (h : DesignatorForm.scan? cs = some form) :
    ∀ ds, some ds ∈ form.fields → IsField ds ∧ ds <:+: cs := by
  intro ds hds
  simp only [fields, List.mem_cons, List.not_mem_nil, or_false] at hds
  rcases scan?_cases h with ⟨hdays, -, hhours, hminutes, hseconds⟩ |
    ⟨mark, rest, rest₁, rest₂, hdays, -, hhours, hminutes, hseconds, -⟩
  · rw [hhours, hminutes, hseconds] at hds
    simp only [reduceCtorEq, or_false] at hds
    exact (scanComponent_cut hdays).2 ds hds.symm
  · have hrest : rest <:+ cs := (List.suffix_cons mark rest).trans (scanComponent_cut hdays).1
    have hrest₁ := (scanComponent_cut hhours).1.trans hrest
    have hrest₂ := (scanComponent_cut hminutes).1.trans hrest₁
    rcases hds with hds | hds | hds | hds
    · exact (scanComponent_cut hdays).2 ds hds.symm
    · exact ((scanComponent_cut hhours).2 ds hds.symm).imp_right (·.trans hrest.isInfix)
    · exact ((scanComponent_cut hminutes).2 ds hds.symm).imp_right (·.trans hrest₁.isInfix)
    · exact ((scanComponent_cut hseconds).2 ds hds.symm).imp_right (·.trans hrest₂.isInfix)

/-- In an ASCII text every component has a number. -/
theorem DesignatorForm.exists_spells {form : DesignatorForm}
    (h : DesignatorForm.scan? cs = some form) (hascii : ∀ c ∈ cs, c.toNat < 128) :
    ∀ field ∈ form.fields, ∃ n, Spells field n := by
  intro field hfield
  cases field with
  | none => exact ⟨none, rfl⟩
  | some ds =>
    obtain ⟨hds, hwithin⟩ := isField_of_scan h ds hfield
    obtain ⟨n, hn⟩ := exists_natOfDigits? hds.ne_nil fun d hd =>
      isAsciiDigit_of_ascii (hds.digits d hd) (hascii d (hwithin.subset hd))
    exact ⟨some n, spells_some.mpr ⟨n, rfl, hn⟩⟩

/-- A component without a value is a number that has more than 63 bits. -/
theorem componentValue_eq_error {field : Option (List Char)} {k : Option Nat}
    (hfield : Spells field k) (h : componentValue field = .error e) :
    ∃ ds n, field = some ds ∧ natOfDigits? ds = some n ∧ 9223372036854775807 < n ∧
      e = .outOfRange (String.ofList ds) := by
  cases field with
  | none => cases h
  | some ds =>
    obtain ⟨n, rfl, hn⟩ := spells_some.mp hfield
    rw [componentValue] at h
    split at h
    · cases h
    · next hnone =>
      cases h
      refine ⟨ds, n, rfl, hn, ?_, rfl⟩
      by_contra hle
      rw [fieldValue?_of_le hn (Nat.le_of_not_lt hle)] at hnone
      cases hnone

/-- A form is refused for a component, or for the sum of them. -/
theorem readDesignators_eq_error {form : DesignatorForm}
    (hletters : hasYearOrMonth (cs.takeWhile fun c => !isTimeMark c) = false)
    (hscan : DesignatorForm.scan? cs = some form) (h : readDesignators (mark :: cs) = .error e) :
    (∃ field ∈ form.fields, componentValue field = .error e) ∨
      e = .outOfRange (String.ofList (mark :: cs)) := by
  rw [readDesignators, List.tail_cons, hletters, if_neg Bool.false_ne_true, hscan] at h
  simp only [bind_eq_error_iff] at h
  rcases h with h | ⟨days, -, h | ⟨hours, -, h | ⟨minutes, -, h | ⟨seconds, -, h⟩⟩⟩⟩
  · exact .inl ⟨form.days, by simp [DesignatorForm.fields], h⟩
  · exact .inl ⟨form.hours, by simp [DesignatorForm.fields], h⟩
  · exact .inl ⟨form.minutes, by simp [DesignatorForm.fields], h⟩
  · exact .inl ⟨form.seconds, by simp [DesignatorForm.fields], h⟩
  · split at h
    · cases h
    · cases h
      exact .inr rfl

theorem readDesignators_error_cause (hmark : mark ∈ ['P', 'p'])
    (hascii : ∀ c ∈ cs, c.toNat < 128) (h : readDesignators (mark :: cs) = .error e) :
    (NamesYearOrMonth (mark :: cs) ∧
      e = .unsupportedDesignator (String.ofList (mark :: cs))) ∨
    (¬ NamesYearOrMonth (mark :: cs) ∧ (∃ n, DesignatorText (mark :: cs) n) ∧
      ∃ named, NamesAmount (mark :: cs) named ∧ e = .outOfRange named) ∨
    (¬ NamesYearOrMonth (mark :: cs) ∧ (∀ n, ¬ DesignatorText (mark :: cs) n) ∧
      e = .invalid .duration (String.ofList (mark :: cs))) := by
  rw [namesYearOrMonth_iff hmark hascii]
  cases hletters : hasYearOrMonth (cs.takeWhile fun c => !isTimeMark c) with
  | true =>
    rw [readDesignators, List.tail_cons, hletters, if_pos rfl] at h
    cases h
    exact .inl ⟨rfl, rfl⟩
  | false =>
    refine .inr ?_
    cases hscan : DesignatorForm.scan? cs with
    | none =>
      rw [readDesignators, List.tail_cons, hletters, if_neg Bool.false_ne_true, hscan] at h
      cases h
      refine .inr ⟨Bool.false_ne_true, fun n hform => ?_, rfl⟩
      cases hform with
      | intro _ hdays htime hwritten =>
        obtain ⟨form, _, _, _, hform, -⟩ := scan?_of_timeText hdays htime hwritten
        rw [hscan] at hform
        cases hform
    | some form =>
      have hspells := DesignatorForm.exists_spells hscan hascii
      simp only [DesignatorForm.fields, List.forall_mem_cons] at hspells
      obtain ⟨⟨d, hd⟩, ⟨hn, hh⟩, ⟨mn, hm⟩, ⟨sn, hs⟩, -⟩ := hspells
      refine .inl ⟨Bool.false_ne_true, ⟨_, designatorText_of_scan hscan hascii hd hh hm hs hmark⟩, ?_⟩
      rcases readDesignators_eq_error hletters hscan h with ⟨field, hfield, herror⟩ | rfl
      · obtain ⟨k, hk⟩ := DesignatorForm.exists_spells hscan hascii field hfield
        obtain ⟨ds, n, rfl, hn, hlarge, rfl⟩ := componentValue_eq_error hk herror
        have hwithin := (DesignatorForm.isField_of_scan hscan ds hfield).2
        refine ⟨_, .inr ?_, rfl⟩
        rw [String.toList_ofList]
        exact ⟨hwithin.trans (List.suffix_cons mark cs).isInfix, n, hn, hlarge⟩
      · exact ⟨_, .inl rfl, rfl⟩

/-! ## What has passed -/

/-- The days of a time that has passed, the number before its point, have
more than 63 bits. -/
def LongDays (cs : List Char) : Prop :=
  ∃ negative ds rest n, dropMinus cs = (negative, ds ++ '.' :: rest) ∧ natOfDigits? ds = some n ∧
    9223372036854775807 < n

theorem fieldValue?_of_gt (number : natOfDigits? ds = some n) (hlarge : 9223372036854775807 < n) :
    fieldValue? ds = none := by
  refine Option.eq_none_iff_forall_ne_some.mpr fun i hi => ?_
  obtain ⟨hi, hfits⟩ := Option.filter_eq_some_iff.mp hi
  rw [number, Option.map_some, Option.some.injEq] at hi
  rw [← hi, fitsInt64, Bool.and_eq_true, decide_eq_true_eq, decide_eq_true_eq, int64Max] at hfits
  have hle : (n : Int) ≤ 9223372036854775807 := hfits.2
  omega

/-- Such a text is refused as no duration at all. -/
theorem LongDays.readElapsed_eq (h : LongDays cs) :
    readElapsed comma cs = .error (.invalid .duration (String.ofList cs)) := by
  obtain ⟨negative, ds, rest, n, hsign, hn, hlarge⟩ := h
  have hpoint : isDecimalDigit '.' = false := isDecimalDigit_marks '.' (by simp)
  have hcount : scanDayCount? cs = none := by
    rw [scanDayCount?, hsign]
    simp [hpoint]
  obtain ⟨htake, hdrop⟩ := cut_of_number rest hn hpoint
  have hdays : scanDays (ds ++ '.' :: rest) = (some ds, rest) := by
    rw [scanDays, hdrop, htake]
    exact if_neg (by simpa using (natOfDigits?_eq_some hn).1)
  rw [readElapsed, hcount]
  cases hscan : ElapsedForm.scan? comma cs with
  | none => rfl
  | some form =>
    obtain ⟨rest', rest₁, _, _, hsign', hdays', -⟩ := scan?_eq_some hscan
    rw [hsign] at hsign'
    obtain ⟨-, rfl⟩ := Prod.mk.inj hsign'
    rw [hdays] at hdays'
    have hfield : form.days = some ds := (Prod.mk.inj hdays').1.symm
    have hnone : form.components? = none := by
      rw [ElapsedForm.components?, hfield, Option.elim_some, fieldValue?_of_gt hn hlarge]
      rfl
    dsimp only
    rw [hnone]

/-- Any other text of the grammar is found by one of the scanners. -/
theorem PassedText.scanned (h : PassedText comma rest n) (hsign : dropMinus cs = (negative, rest))
    (hlong : ¬ LongDays cs) : (∃ ds, scanDayCount? cs = some (negative, ds)) ∨
      ∃ form values, ElapsedForm.scan? comma cs = some form ∧ form.components? = some values := by
  cases h with
  | @clock ds hs ms ss d _ _ _ _ days hours minutes seconds =>
    have hd : d ≤ 9223372036854775807 := by
      cases days with
      | absent => exact Nat.zero_le _
      | @present digits _ number =>
        by_contra hlarge
        refine hlong ⟨negative, digits, hs ++ ':' :: (ms ++ ss), d, ?_, number, Nat.lt_of_not_le hlarge⟩
        rw [hsign, List.append_assoc, List.singleton_append]
    obtain ⟨form, hscan, -, hvalues⟩ := scan?_of_clock days hd hours minutes seconds hsign
    exact .inr ⟨form, _, hscan, hvalues⟩
  | days number => exact .inl ⟨rest, scanDayCount?_of_number hsign number⟩

/-- In an ASCII text the digits of a number of days have a number. -/
theorem exists_natOfDigits?_of_dayCount (hascii : ∀ c ∈ cs, c.toNat < 128)
    (h : scanDayCount? cs = some (negative, ds)) : ∃ n, natOfDigits? ds = some n := by
  obtain ⟨hsign, hne, hdigits⟩ := scanDayCount?_eq_some_iff.mp h
  have hcs := dropMinus_append cs
  rw [hsign] at hcs
  have hsubset : ∀ d ∈ ds, d ∈ cs := fun d hd => by
    rw [hcs]
    exact List.mem_append_right _ hd
  exact exists_natOfDigits? hne fun d hd =>
    isAsciiDigit_of_ascii (hdigits d hd) (hascii d (hsubset d hd))

/-- A text that no scanner takes is not in the grammar. -/
theorem not_passedText_of_unscanned (hlong : ¬ LongDays cs) (hcount : scanDayCount? cs = none)
    (hscan : ∀ form values, ElapsedForm.scan? comma cs = some form →
      form.components? ≠ some values) :
    ∀ negative rest n, dropMinus cs = (negative, rest) → ¬ PassedText comma rest n := by
  intro negative rest n hsign form
  rcases form.scanned hsign hlong with ⟨ds, hsome⟩ | ⟨found, values, hsome, hvalues⟩
  · rw [hcount] at hsome
    cases hsome
  · exact hscan found values hsome hvalues

theorem readElapsed_error_cause (hascii : ∀ c ∈ cs, c.toNat < 128)
    (h : readElapsed comma cs = .error e) :
    ((∃ negative rest n, dropMinus cs = (negative, rest) ∧ PassedText comma rest n) ∧
      ¬ LongDays cs ∧ e = .outOfRange (String.ofList cs)) ∨
    ((LongDays cs ∨ ∀ negative rest n, dropMinus cs = (negative, rest) →
      ¬ PassedText comma rest n) ∧ e = .invalid .duration (String.ofList cs)) := by
  by_cases hlong : LongDays cs
  · rw [hlong.readElapsed_eq] at h
    cases h
    exact .inr ⟨.inl hlong, rfl⟩
  rw [readElapsed] at h
  split at h
  · next negative ds hcount =>
    split at h
    · cases h
    · cases h
      obtain ⟨n, hn⟩ := exists_natOfDigits?_of_dayCount hascii hcount
      have hsign := (scanDayCount?_eq_some_iff.mp hcount).1
      exact .inl ⟨⟨negative, ds, _, hsign, .days hn⟩, hlong, rfl⟩
  · next hcount =>
    split at h
    · next hnone =>
      cases h
      refine .inr ⟨.inr (not_passedText_of_unscanned hlong hcount fun form values hscan => ?_), rfl⟩
      rw [hnone] at hscan
      cases hscan
    · next found hfound =>
      split at h
      · next hnone =>
        cases h
        refine .inr ⟨.inr (not_passedText_of_unscanned hlong hcount
          fun form values hscan => ?_), rfl⟩
        rw [hfound] at hscan
        cases hscan
        rw [hnone]
        exact (Option.some_ne_none values).symm
      · next i j k l o hvalues =>
        split at h
        · cases h
        · cases h
          obtain ⟨rest, _, _, _, _, _, hsign, form, -⟩ := passedText_of_scan hfound hvalues
          exact .inl ⟨⟨found.negative, rest, _, hsign, form⟩, hlong, rfl⟩

end

/-! ## The cause -/

/-- What starts with P has no days of a time that has passed. -/
theorem LongDays.not_mark {cs : List Char} (h : LongDays cs) : ∀ c ∈ cs.head?, c ∉ ['P', 'p'] := by
  obtain ⟨negative, ds, rest, n, hsign, hn, -⟩ := h
  intro c hc hmark
  obtain ⟨tail, rfl⟩ := List.head?_eq_some_iff.mp hc
  have hne : ∀ c ∈ ['P', 'p'], c ≠ '-' := by decide
  rw [dropMinus_of_ne (hne c hmark)] at hsign
  cases ds with
  | nil => exact (natOfDigits?_eq_some hn).1 rfl
  | cons d ds =>
    obtain ⟨rfl, -⟩ := List.cons.inj (Prod.mk.inj hsign).2
    exact absurd (isAsciiDigit_of_number hn c List.mem_cons_self)
      (by simp [not_digit_of_mark c hmark])

/-- The amount of a text of the grammar that is refused is out of range. -/
theorem maxNanos_lt_of_error {locale : Locale} {text : String} {e : CoercionError}
    {negative : Bool} {n : Nat} (hascii : ∀ c ∈ text.toList, c.toNat < 128)
    (hwritten : Written locale.decimalComma (trim text.toList) negative n)
    (h : read locale text = .error e) : 9223372036854775807 * 1000000 < n := by
  by_contra hle
  have hmax : (n : Int) ≤ maxNanos := natCast_le_maxNanos_iff.mpr (Nat.le_of_not_lt hle)
  have hok := (read_eq_ok_iff_written (d := ⟨if negative then -(n : Int) else n, by
    cases negative <;> simp <;> omega⟩) hascii).mpr ⟨negative, n, hwritten, hmax, rfl⟩
  rw [h] at hok
  cases hok

/-- Why an ASCII text is refused.  If it starts with P and, before any T, a
digit is followed by the designator of years or months, that is the cause.
Otherwise, if it is written as a duration, its amount is more than 2⁶³ − 1
milliseconds and is named, and otherwise it is no duration; but a time that
has passed with days of more than 63 bits counts as no duration either. -/
theorem read_error_cause (locale : Locale) (text : String)
    (hascii : ∀ c ∈ text.toList, c.toNat < 128) (e : CoercionError)
    (h : read locale text = .error e) :
    (NamesYearOrMonth (trim text.toList) ∧
      e = .unsupportedDesignator (String.ofList (trim text.toList))) ∨
    (¬ NamesYearOrMonth (trim text.toList) ∧
      (∃ negative n, Written (locale.decimalSeparator == ',') (trim text.toList) negative n ∧
        9223372036854775807 * 1000000 < n) ∧
      ¬ LongDays (trim text.toList) ∧
      ∃ named, NamesAmount (trim text.toList) named ∧ e = .outOfRange named) ∨
    (¬ NamesYearOrMonth (trim text.toList) ∧
      (LongDays (trim text.toList) ∨
        ∀ negative n, ¬ Written (locale.decimalSeparator == ',') (trim text.toList) negative n) ∧
      e = .invalid .duration (String.ofList (trim text.toList))) := by
  rw [decimalSeparator_eq_comma]
  have hascii' : ∀ c ∈ trim text.toList, c.toNat < 128 := fun c hc => hascii c (trim_subset _ hc)
  by_cases hmark : ∀ c ∈ (trim text.toList).head?, c ∉ ['P', 'p']
  · have hnames : ¬ NamesYearOrMonth (trim text.toList) := by
      rintro ⟨mark, _, _, _, _, hcs, hisMark, -⟩
      exact hmark mark (by rw [hcs]; rfl) hisMark
    have h' := h
    rw [read_of_not_mark hmark] at h'
    rcases readElapsed_error_cause hascii' h' with
      ⟨⟨negative, rest, n, hsign, form⟩, hshort, rfl⟩ | ⟨hcause, rfl⟩
    · have hwritten := (written_iff_of_not_mark hmark).mpr ⟨rest, hsign, form⟩
      exact .inr (.inl ⟨hnames, ⟨negative, n, hwritten, maxNanos_lt_of_error hascii hwritten h⟩,
        hshort, _, .inl rfl, rfl⟩)
    · refine .inr (.inr ⟨hnames, hcause.imp_right fun hnone negative n hwritten => ?_, rfl⟩)
      obtain ⟨rest, hsign, form⟩ := (written_iff_of_not_mark hmark).mp hwritten
      exact hnone negative rest n hsign form
  · have hlong : ¬ LongDays (trim text.toList) := fun hlong => hmark hlong.not_mark
    obtain ⟨mark, hhead, hmark⟩ : ∃ mark ∈ (trim text.toList).head?, mark ∈ ['P', 'p'] := by
      simpa only [not_forall, not_not, exists_prop] using hmark
    obtain ⟨cs, htrim⟩ := List.head?_eq_some_iff.mp hhead
    have h' := h
    rw [read_of_mark htrim hmark] at h'
    have hcs : ∀ c ∈ cs, c.toNat < 128 := fun c hc =>
      hascii' c (htrim ▸ List.mem_cons_of_mem _ hc)
    have hcause := readDesignators_error_cause hmark hcs h'
    rw [← htrim] at hcause
    rcases hcause with ⟨hnames, rfl⟩ | ⟨hnames, ⟨n, form⟩, named, hnamed, rfl⟩ |
      ⟨hnames, hnone, rfl⟩
    · exact .inl ⟨hnames, rfl⟩
    · have hwritten : Written locale.decimalComma (trim text.toList) false n := .designators form
      exact .inr (.inl ⟨hnames, ⟨false, n, hwritten, maxNanos_lt_of_error hascii hwritten h⟩,
        hlong, named, hnamed, rfl⟩)
    · refine .inr (.inr ⟨hnames, .inr fun negative n hwritten => ?_, rfl⟩)
      rw [htrim, written_iff_of_mark hmark] at hwritten
      exact hnone n (htrim ▸ hwritten.2)

/-- Seconds that do not fit 63 bits make a duration that is out of range,
and it is they that are named. -/
theorem read_error_cause_longSeconds :
    (∀ c ∈ " PT9223372036854775808S".toList, c.toNat < 128) ∧
    read .invariant " PT9223372036854775808S" = .error (.outOfRange "9223372036854775808") ∧
    ∃ negative n, Written (Locale.invariant.decimalSeparator == ',') "PT9223372036854775808S".toList
      negative n ∧ 9223372036854775807 * 1000000 < n := by
  have hascii : ∀ c ∈ " PT9223372036854775808S".toList, c.toNat < 128 := by decide
  have hread : read .invariant " PT9223372036854775808S" =
      .error (.outOfRange "9223372036854775808") := by decide +kernel
  rcases read_error_cause .invariant " PT9223372036854775808S" hascii _ hread with
    ⟨-, heq⟩ | ⟨-, hwritten, -, -⟩ | ⟨-, -, heq⟩
  · cases heq
  · exact ⟨hascii, hread, hwritten⟩
  · cases heq

/-- Days that do not fit 63 bits make no duration out of range, though the
text is written as one: before a clock they count as not written. -/
theorem not_outOfRange_of_longDays :
    (∃ n, Written (Locale.invariant.decimalSeparator == ',')
      (trim "9223372036854775808.00:00".toList) false n ∧ 9223372036854775807 * 1000000 < n) ∧
    read .invariant "9223372036854775808.00:00" =
      .error (.invalid .duration "9223372036854775808.00:00") ∧
    read .invariant "9223372036854775807.00:00" =
      .error (.outOfRange "9223372036854775807.00:00") ∧
    read .invariant "9223372036854775808" = .error (.outOfRange "9223372036854775808") := by
  have hdays : DaysText ("9223372036854775808".toList ++ ['.']) 9223372036854775808 :=
    .present (by decide +kernel)
  have hfield : ∀ most, ClockField most ['0', '0'] 0 := fun most =>
    ⟨by decide, by decide, Nat.zero_le most⟩
  exact ⟨⟨_, .plain (.clock hdays (hfield 23) (hfield 59) .absent), by decide⟩, by decide +kernel,
    by decide +kernel, by decide +kernel⟩

end RecordSieve.Duration
