/-
RecordSieve.Proofs.Duration.Reading — which texts are durations, and which.

A trimmed text is read by its first character: a P stands before the
designator form, and anything else is read as what has passed.  The
grammar agrees, for what has passed starts with a digit or a minus sign;
so a text is read exactly if the grammar has it and its amount is in
range, and a minus sign turns what has passed into its opposite.
-/
import RecordSieve.Proofs.Duration.Designators
import RecordSieve.Proofs.Duration.Elapsed
import RecordSieve.Proofs.Text.Blank

namespace RecordSieve.Duration

open RecordSieve.Text RecordSieve.Decimal RecordSieve.Calendar

variable {comma negative : Bool} {cs : List Char} {n : Nat} {d : Duration}

/-! ## The first character -/

theorem DesignatorText.exists_cons (h : DesignatorText cs n) :
    ∃ mark rest, cs = mark :: rest ∧ mark ∈ ['P', 'p'] := by
  cases h with
  | intro isMark => exact ⟨_, _, rfl, isMark⟩

theorem not_digit_of_mark : ∀ c ∈ ['P', 'p'], isAsciiDigit c = false := by decide

theorem written_iff : Written comma cs negative n ↔
    (negative = false ∧ DesignatorText cs n) ∨
    ∃ rest, dropMinus cs = (negative, rest) ∧ PassedText comma rest n := by
  constructor
  · intro h
    cases h with
    | designators form => exact .inl ⟨rfl, form⟩
    | plain form => exact .inr ⟨cs, form.dropMinus_eq, form⟩
    | minus form => exact .inr ⟨_, rfl, form⟩
  · rintro (⟨rfl, form⟩ | ⟨rest, hsign, form⟩)
    · exact .designators form
    · have hcs := dropMinus_append cs
      rw [hsign] at hcs
      cases negative with
      | false =>
        rw [hcs]
        exact .plain form
      | true =>
        rw [hcs]
        exact .minus form

/-- A text that starts with P is nothing but designators. -/
theorem written_iff_of_mark {mark : Char} (hmark : mark ∈ ['P', 'p']) :
    Written comma (mark :: cs) negative n ↔ negative = false ∧ DesignatorText (mark :: cs) n := by
  have hne : ∀ c ∈ ['P', 'p'], c ≠ '-' := by decide
  rw [written_iff, or_iff_left]
  rintro ⟨rest, hsign, form⟩
  rw [dropMinus_of_ne (hne mark hmark)] at hsign
  cases hsign
  obtain ⟨c, rest, hcons, hc⟩ := form.exists_cons
  cases hcons
  exact absurd hc (by simp [not_digit_of_mark mark hmark])

/-- Any other text is nothing but what has passed. -/
theorem written_iff_of_not_mark (hmark : ∀ c ∈ cs.head?, c ∉ ['P', 'p']) :
    Written comma cs negative n ↔
      ∃ rest, dropMinus cs = (negative, rest) ∧ PassedText comma rest n := by
  rw [written_iff, or_iff_right]
  rintro ⟨-, form⟩
  obtain ⟨mark, rest, rfl, hisMark⟩ := form.exists_cons
  exact hmark mark rfl hisMark

theorem read_of_mark {locale : Locale} {text : String} {mark : Char}
    (htrim : trim text.toList = mark :: cs) (hmark : mark ∈ ['P', 'p']) :
    read locale text = readDesignators (mark :: cs) := by
  have hmark : (mark == 'P' || mark == 'p') = true := by simpa using hmark
  rw [read, htrim]
  exact if_pos hmark

theorem read_of_not_mark {locale : Locale} {text : String}
    (hmark : ∀ c ∈ (trim text.toList).head?, c ∉ ['P', 'p']) :
    read locale text = readElapsed locale.decimalComma (trim text.toList) := by
  rw [read]
  rcases hcs : trim text.toList with _ | ⟨c, cs⟩
  · rfl
  · rw [hcs] at hmark
    have hc : ¬ (c == 'P' || c == 'p') = true := by simpa using hmark c rfl
    exact if_neg hc

theorem decimalSeparator_eq_comma (locale : Locale) :
    (locale.decimalSeparator == ',') = locale.decimalComma := by
  rw [Locale.decimalSeparator]
  cases locale.decimalComma <;> rfl

/-! ## Texts and amounts -/

/-- The text of an ASCII duration says what is read from it. -/
theorem read_eq_ok_iff_written {locale : Locale} {text : String}
    (hascii : ∀ c ∈ text.toList, c.toNat < 128) :
    read locale text = .ok d ↔ ∃ negative, ∃ n : Nat,
      Written locale.decimalComma (trim text.toList) negative n ∧ (n : Int) ≤ maxNanos ∧
      d.nanos = if negative then -(n : Int) else n := by
  by_cases hmark : ∀ c ∈ (trim text.toList).head?, c ∉ ['P', 'p']
  · simp only [read_of_not_mark hmark, readElapsed_eq_ok_iff, written_iff_of_not_mark hmark]
    constructor
    · rintro ⟨negative, rest, n, hsign, form, h⟩
      exact ⟨negative, n, ⟨rest, hsign, form⟩, h⟩
    · rintro ⟨negative, n, ⟨rest, hsign, form⟩, h⟩
      exact ⟨negative, rest, n, hsign, form, h⟩
  · obtain ⟨mark, hhead, hmark⟩ : ∃ mark ∈ (trim text.toList).head?, mark ∈ ['P', 'p'] := by
      simpa only [not_forall, not_not, exists_prop] using hmark
    obtain ⟨cs, htrim⟩ := List.head?_eq_some_iff.mp hhead
    have hcs : ∀ c ∈ cs, c.toNat < 128 := fun c hc =>
      hascii c (trim_subset _ (htrim ▸ List.mem_cons_of_mem _ hc))
    rw [read_of_mark htrim hmark, readDesignators_eq_ok_iff hmark hcs, htrim]
    simp only [written_iff_of_mark hmark]
    constructor
    · rintro ⟨n, form, hle, hd⟩
      exact ⟨false, n, ⟨rfl, form⟩, hle, hd⟩
    · rintro ⟨negative, n, ⟨rfl, form⟩, hle, hd⟩
      exact ⟨n, form, hle, hd⟩

/-- A minus sign before what has passed makes it the opposite amount. -/
theorem readElapsed_minus_eq_ok_iff (form : PassedText comma cs n) :
    readElapsed comma ('-' :: cs) = .ok d ↔ readElapsed comma cs = .ok d.neg := by
  rw [readElapsed_eq_ok_iff, readElapsed_eq_ok_iff, form.dropMinus_eq, dropMinus]
  constructor
  · rintro ⟨negative, rest, k, hsign, form, hle, hd⟩
    cases hsign
    refine ⟨false, cs, k, rfl, form, hle, ?_⟩
    rw [if_pos rfl] at hd
    rw [if_neg Bool.false_ne_true, nanos_neg, hd, Int.neg_neg]
  · rintro ⟨negative, rest, k, hsign, form, hle, hd⟩
    cases hsign
    refine ⟨true, cs, k, rfl, form, hle, ?_⟩
    rw [if_neg Bool.false_ne_true, nanos_neg] at hd
    rw [if_pos rfl, ← hd, Int.neg_neg]

theorem read_minus_eq_ok_iff {locale : Locale} {text : String}
    (form : PassedText locale.decimalComma (trim text.toList) n) :
    read locale (String.ofList ('-' :: trim text.toList)) = .ok d ↔
      read locale text = .ok d.neg := by
  have hminus :
      trim (String.ofList ('-' :: trim text.toList)).toList = '-' :: trim text.toList := by
    rw [String.toList_ofList]
    exact trim_cons_trim (by decide) _
  have hmark : ∀ c ∈ (trim text.toList).head?, c ∉ ['P', 'p'] := by
    obtain ⟨c, rest, hcs, hc⟩ := form.exists_cons
    intro mark hmem hmark
    rw [hcs] at hmem
    cases hmem
    exact absurd hc (by simp [not_digit_of_mark c hmark])
  rw [read_of_not_mark (by rw [hminus]; simp), read_of_not_mark hmark, hminus,
    readElapsed_minus_eq_ok_iff form]

/-- An ASCII text is a duration exactly if the trimmed text is written as
one with an amount of at most 2⁶³ − 1 milliseconds, and then it is that
amount with its sign; and a time that has passed, or a number of days, is
a duration with a minus sign exactly if it is one without, the opposite
one. -/
theorem read_eq_ok_iff (locale : Locale) (text : String)
    (hascii : ∀ c ∈ text.toList, c.toNat < 128) :
    (∀ d, read locale text = .ok d ↔ ∃ negative, ∃ n : Nat,
      Written (locale.decimalSeparator == ',') (trim text.toList) negative n ∧
      n ≤ 9223372036854775807 * 1000000 ∧ d.nanos = if negative then -(n : Int) else n) ∧
    ∀ n, PassedText (locale.decimalSeparator == ',') (trim text.toList) n →
      (read locale (String.ofList ('-' :: trim text.toList))).toOption =
        (read locale text).toOption.map neg := by
  rw [decimalSeparator_eq_comma]
  refine ⟨fun d => ?_, fun n form => ?_⟩
  · simp only [read_eq_ok_iff_written hascii, natCast_le_maxNanos_iff]
  · ext d
    rw [Option.map_eq_some_iff]
    simp only [toOption_eq_some_iff, read_minus_eq_ok_iff form]
    constructor
    · intro h
      exact ⟨d.neg, h, neg_neg d⟩
    · rintro ⟨e, he, rfl⟩
      rw [neg_neg, he]

/-- A day, two hours, three minutes and four and a half seconds, and as
much time the other way. -/
theorem read_dayAndClock : (∀ c ∈ " 1.02:03:04.5".toList, c.toNat < 128) ∧
    ∃ d, read .invariant " 1.02:03:04.5" = .ok d ∧ d.nanos = 93784500000000 ∧
      (read .invariant "-1.02:03:04.5").toOption = some d.neg := by
  have hascii : ∀ c ∈ " 1.02:03:04.5".toList, c.toNat < 128 := by decide
  obtain ⟨hread, hminus⟩ := read_eq_ok_iff .invariant " 1.02:03:04.5" hascii
  have hdays : DaysText (['1'] ++ ['.']) 1 := .present (by decide)
  have hhours : ClockField 23 ['0', '2'] 2 := ⟨by decide, by decide, by decide⟩
  have hminutes : ClockField 59 ['0', '3'] 3 := ⟨by decide, by decide, by decide⟩
  have hhalf : natOfDigits? ['5'] = some 5 := by decide
  have hfraction : FractionText (Locale.invariant.decimalSeparator == ',') ['.', '5'] 500000000 :=
    .present (.inl rfl) hhalf (by decide)
  have hseconds : SecondsText (Locale.invariant.decimalSeparator == ',')
      (':' :: (['0', '4'] ++ ['.', '5'])) 4 500000000 :=
    .present ⟨by decide, by decide, by decide⟩ hfraction
  have hclock : PassedText (Locale.invariant.decimalSeparator == ',')
      (trim " 1.02:03:04.5".toList) 93784500000000 := .clock hdays hhours hminutes hseconds
  have hd := (hread ⟨93784500000000, by decide⟩).mpr
    ⟨false, 93784500000000, .plain hclock, by decide, rfl⟩
  refine ⟨hascii, _, hd, rfl, ?_⟩
  have hopposite := hminus _ hclock
  rw [hd] at hopposite
  exact hopposite

end RecordSieve.Duration
