/-
RecordSieve.Proofs.Calendar.NumericText — the texts that are numeric
dates.

The numeric form is written down here as a grammar: which characters may
stand where, and which of them are a field of the form
(`NumericForm.IsText`).  A field may be written in the digits of any
script, and what stands for a half of the day or for UTC in either case.

The scanner takes a field for as long as there are digits, and it drops
all blanks where it may drop one.  In the grammar no digit follows a field
(`EndsNumber`) and no blank follows blanks, so the two agree: the scanner
finds the form that the text has, and no other
(`NumericForm.scan?_eq_some_iff`).
-/
import RecordSieve.Proofs.Calendar.Fallback
import RecordSieve.Proofs.Text.Blank

namespace RecordSieve.Calendar

open RecordSieve.Text RecordSieve.Decimal

/-! ## The grammar -/

/-- A field of at least `least` and at most `most` decimal digits. -/
structure DigitText (least most : Nat) (ds : List Char) : Prop where
  digits : ∀ d ∈ ds, isDecimalDigit d = true
  least_le : least ≤ ds.length
  le_most : ds.length ≤ most

/-- What stands between date and time: the letter T, or blanks. -/
inductive TimeMark : List Char → Prop
  | letter {c : Char} (isMark : c ∈ ['T', 't']) : TimeMark [c]
  | blanks {c : Char} {cs : List Char} (front : isBlank c = true) (rest : isAllBlank cs = true) :
      TimeMark (c :: cs)

/-- An optional fraction after a point or a comma, and its digits. -/
inductive FractionText : List Char → Option (List Char) → Prop
  | absent : FractionText [] none
  | present {mark : Char} {ds : List Char} (isMark : mark ∈ ['.', ',']) (digits : DigitText 1 9 ds) :
      FractionText (mark :: ds) (some ds)

/-- Optional seconds after a colon, with an optional fraction. -/
inductive SecondText : List Char → Option (List Char) → Option (List Char) → Prop
  | absent : SecondText [] none none
  | present {ss fs : List Char} {fraction : Option (List Char)} (digits : DigitText 2 2 ss)
      (isFraction : FractionText fs fraction) : SecondText (':' :: (ss ++ fs)) (some ss) fraction

/-- An optional half of the day. -/
inductive HalfText : List Char → Option DayHalf → Prop
  | absent : HalfText [] none
  | am {cs : List Char} (word : equalIgnoringCase cs "am".toList = true) : HalfText cs (some .am)
  | pm {cs : List Char} (word : equalIgnoringCase cs "pm".toList = true) : HalfText cs (some .pm)

/-- An optional offset: Z, or a sign with hours, and minutes with or
without a colon before them. -/
inductive OffsetText : List Char → Option OffsetForm → Prop
  | absent : OffsetText [] none
  | utc {c : Char} (isLetter : c ∈ ['Z', 'z']) : OffsetText [c] (some .utc)
  | plain {sign : Char} {ds : List Char} (isSign : IsSign sign) (digits : DigitText 1 4 ds) :
      OffsetText (sign :: ds) (some (.plain (sign == '-') ds))
  | colon {sign : Char} {hs ms : List Char} (isSign : IsSign sign) (hours : DigitText 1 2 hs)
      (minutes : DigitText 2 2 ms) :
      OffsetText (sign :: (hs ++ ':' :: ms)) (some (.colon (sign == '-') hs ms))

/-- The time part, with the blanks that may stand in it and after it. -/
inductive TimeText : List Char → TimeForm → Prop
  | intro {mark hour minute ss hs os gap₁ gap₂ back : List Char}
      {second fraction : Option (List Char)} {half : Option DayHalf} {offset : Option OffsetForm}
      (isMark : TimeMark mark) (hourDigits : DigitText 1 2 hour)
      (minuteDigits : DigitText 2 2 minute) (isSecond : SecondText ss second fraction)
      (blank₁ : isAllBlank gap₁ = true) (isHalf : HalfText hs half)
      (blank₂ : isAllBlank gap₂ = true) (isOffset : OffsetText os offset)
      (blankBack : isAllBlank back = true) :
      TimeText (mark ++ (hour ++ ':' :: (minute ++ (ss ++ (gap₁ ++ (hs ++ (gap₂ ++ (os ++ back))))))))
        ⟨hour, minute, second, fraction, half, offset⟩

/-- What may follow the three numbers: a time, or nothing but blanks. -/
inductive AfterDateText : List Char → Option TimeForm → Prop
  | blanks {cs : List Char} (blank : isAllBlank cs = true) : AfterDateText cs none
  | time {cs : List Char} {t : TimeForm} (isTime : TimeText cs t) : AfterDateText cs (some t)

/-- The text is a numeric date with the fields of the form. -/
inductive NumericForm.IsText : NumericForm → List Char → Prop
  | intro {front a b c rest : List Char} {sep₁ sep₂ : Char} {time : Option TimeForm}
      (blankFront : isAllBlank front = true) (aDigits : DigitText 1 4 a)
      (isSeparator₁ : isDateSeparator sep₁ = true) (bDigits : DigitText 1 2 b)
      (isSeparator₂ : isDateSeparator sep₂ = true) (cDigits : DigitText 1 4 c)
      (isRest : AfterDateText rest time) :
      IsText ⟨a, b, c, time⟩ (front ++ (a ++ sep₁ :: (b ++ sep₂ :: (c ++ rest))))

/-! ## Fields of digits -/

section

variable {least most : Nat} {cs ds rest : List Char}

theorem DigitText.isField (h : DigitText least most ds) (hleast : 0 < least) : IsField ds :=
  ⟨List.length_pos_iff.mp (Nat.lt_of_lt_of_le hleast h.least_le), h.digits⟩

theorem DigitText.mono {most' : Nat} (h : DigitText least most ds) (hmost : most ≤ most') :
    DigitText least most' ds :=
  ⟨h.digits, h.least_le, Nat.le_trans h.le_most hmost⟩

/-- A field is taken whole where no digit follows. -/
theorem DigitText.digitField?_eq (h : DigitText least most ds) (hrest : EndsRun rest) :
    digitField? least most (ds ++ rest) = some (ds, rest) := by
  rw [digitField?, takeDigits_decimal h.digits h.le_most hrest]
  exact if_pos h.least_le

theorem digitText_of_digitField? (h : digitField? least most cs = some (ds, rest)) :
    DigitText least most ds ∧ cs = ds ++ rest := by
  obtain ⟨hdigits, hleast, hmost, happend⟩ := digitField?_eq_some h
  exact ⟨⟨hdigits, hleast, hmost⟩, happend.symm⟩

end

/-- The digits of a fraction, as the grammar has them. -/
theorem NumericForm.IsText.fraction {form : NumericForm} {cs : List Char} (h : form.IsText cs) :
    ∀ t, form.time = some t → ∀ ds, t.fraction = some ds → DigitText 1 9 ds ∧ ds ⊆ cs := by
  rintro t ht ds hds
  obtain ⟨-, -, -, -, -, -, isRest⟩ := h
  cases isRest with
  | blanks => cases ht
  | time isTime =>
    cases ht
    obtain ⟨-, -, -, isSecond, -, -, -, -, -⟩ := isTime
    cases isSecond with
    | absent => cases hds
    | present _ isFraction =>
      cases isFraction with
      | absent => cases hds
      | present _ digits =>
        cases hds
        exact ⟨digits, fun d hd => by simp [hd]⟩

/-! ## What follows a field -/

/-- What follows a number goes on with no digit, and with no mark that a
digit could follow. -/
def EndsNumber (cs : List Char) : Prop :=
  ∀ c ∈ cs.head?, isDecimalDigit c = false ∧ c ∉ [':', '.', ',']

section

variable {c : Char} {cs rest ds : List Char}

theorem EndsNumber.endsRun (h : EndsNumber cs) : EndsRun cs := fun c hc => (h c hc).1

theorem endsNumber_cons (hdigit : isDecimalDigit c = false) (hmark : c ∉ [':', '.', ',']) :
    EndsNumber (c :: cs) := by
  intro d hd
  cases hd
  exact ⟨hdigit, hmark⟩

theorem EndsNumber.append (h : EndsNumber cs) (hrest : EndsNumber rest) :
    EndsNumber (cs ++ rest) := by
  cases cs with
  | nil => exact hrest
  | cons c cs => exact endsNumber_cons (h c rfl).1 (h c rfl).2

theorem endsNumber_of_isAllBlank (h : isAllBlank cs = true) : EndsNumber cs := by
  have hmarks : ∀ c ∈ [':', '.', ','], 33 ≤ c.toNat ∧ c.toNat ≤ 126 := by decide
  intro c hc
  have hblank : isBlank c = true := List.all_eq_true.mp h c (List.mem_of_mem_head? hc)
  refine ⟨isDecimalDigit_of_isBlank hblank, fun hmark => ?_⟩
  rw [isBlank_eq_false (hmarks c hmark)] at hblank
  cases hblank

/-- A character with the code of a letter, or between capital and small letters. -/
theorem not_blank_of_letter (h : 65 ≤ c.toNat ∧ c.toNat ≤ 122) :
    isBlank c = false ∧ isDecimalDigit c = false ∧ c ∉ [':', '.', ','] := by
  have hdigit : isAsciiDigit c = false := by
    refine Bool.eq_false_iff.mpr fun hdigit => ?_
    have := toNat_of_isAsciiDigit hdigit
    omega
  have hmarks : ∀ c ∈ [':', '.', ','], c.toNat < 65 := by decide
  refine ⟨isBlank_eq_false (by omega), isDecimalDigit_eq_false ⟨by omega, hdigit⟩, fun hmark => ?_⟩
  have := hmarks c hmark
  omega

theorem letter_of_toLower {d : Char} (hd : 65 ≤ d.toNat ∧ d.toNat ≤ 122) (h : c.toLower = d) :
    65 ≤ c.toNat ∧ c.toNat ≤ 122 := by
  refine Decidable.byContradiction fun hc => hc ?_
  rw [toLower_of_no_letter (by omega)] at h
  rwa [h]

/-- The word of a half of the day, in any case. -/
theorem exists_letters_of_word {word : List Char} (hword : word ∈ ["am".toList, "pm".toList])
    (h : equalIgnoringCase cs word = true) :
    ∃ c d, cs = [c, d] ∧ 65 ≤ c.toNat ∧ c.toNat ≤ 122 := by
  have hletters : ∀ word ∈ ["am".toList, "pm".toList],
      ∃ c d, lowerAscii word = [c, d] ∧ 65 ≤ c.toNat ∧ c.toNat ≤ 122 := by
    intro word hword
    simp only [List.mem_cons, List.not_mem_nil, or_false] at hword
    rcases hword with rfl | rfl
    · exact ⟨'a', 'm', by decide, by decide, by decide⟩
    · exact ⟨'p', 'm', by decide, by decide, by decide⟩
  obtain ⟨a, b, hab, ha⟩ := hletters word hword
  rw [equalIgnoringCase, beq_iff_eq, hab] at h
  have hlength : cs.length = 2 := by simpa [lowerAscii] using congrArg List.length h
  obtain ⟨c, d, rfl⟩ := List.length_eq_two.mp hlength
  have hc : c.toLower = a := (List.cons.inj h).1
  exact ⟨c, d, rfl, letter_of_toLower ha hc⟩

theorem HalfText.endsNumber {half : Option DayHalf} (h : HalfText cs half) : EndsNumber cs := by
  have hword {word : List Char} (hword : word ∈ ["am".toList, "pm".toList])
      (h : equalIgnoringCase cs word = true) : EndsNumber cs := by
    obtain ⟨c, d, rfl, hc⟩ := exists_letters_of_word hword h
    exact endsNumber_cons (not_blank_of_letter hc).2.1 (not_blank_of_letter hc).2.2
  cases h with
  | absent => exact endsNumber_of_isAllBlank rfl
  | am word => exact hword (by simp) word
  | pm word => exact hword (by simp) word

/-- An offset starts with its letter or its sign. -/
theorem OffsetText.head {offset : Option OffsetForm} (h : OffsetText cs offset) :
    ∀ c ∈ cs.head?, c ∈ ['Z', 'z', '-', '+'] := by
  intro c hc
  cases h with
  | absent => cases hc
  | utc isLetter =>
    cases hc
    exact List.mem_append_left ['-', '+'] isLetter
  | plain isSign | colon isSign =>
    cases hc
    rcases isSign with rfl | rfl <;> decide

theorem not_blank_of_offsetHead : ∀ c ∈ ['Z', 'z', '-', '+'], isBlank c = false ∧
    isDecimalDigit c = false ∧ c ∉ [':', '.', ','] ∧ c.toLower ∉ ['a', 'p'] := by
  have hheads : ∀ c ∈ ['Z', 'z', '-', '+'], (33 ≤ c.toNat ∧ c.toNat ≤ 126) ∧
      (c.toNat < 128 ∧ isAsciiDigit c = false) ∧ c ∉ [':', '.', ','] ∧ c.toLower ∉ ['a', 'p'] := by
    decide
  intro c hc
  obtain ⟨hvisible, hascii, hrest⟩ := hheads c hc
  exact ⟨isBlank_eq_false hvisible, isDecimalDigit_eq_false hascii, hrest⟩

theorem OffsetText.endsNumber {offset : Option OffsetForm} (h : OffsetText cs offset) :
    EndsNumber cs := by
  intro c hc
  have := not_blank_of_offsetHead c (h.head c hc)
  exact ⟨this.2.1, this.2.2.1⟩

/-! ## The scanner finds the fields of the grammar -/

theorem SecondText.scanSecond?_eq {second fraction : Option (List Char)}
    (h : SecondText cs second fraction) (hrest : EndsNumber rest) :
    scanSecond? (cs ++ rest) = some (second, fraction, rest) := by
  cases h with
  | absent =>
    rw [List.nil_append]
    unfold scanSecond?
    split
    · exact absurd List.mem_cons_self (hrest ':' rfl).2
    · rfl
  | @present ss fs _ hsecond hfraction =>
    cases hfraction with
    | absent =>
      rw [List.append_nil, List.cons_append, scanSecond?, hsecond.digitField?_eq hrest.endsRun]
      cases rest with
      | nil => rfl
      | cons c rest =>
        have hmark : ¬ (c = '.' ∨ c = ',') := by
          have := (hrest c rfl).2
          simp only [List.mem_cons, not_or] at this
          simp [this]
        simp [hmark]
    | @present mark ds isMark digits =>
      have hmarks : ∀ c ∈ ['.', ','], c.toNat < 128 ∧ isAsciiDigit c = false := by decide
      have hmark : mark = '.' ∨ mark = ',' := by simpa using isMark
      rw [List.cons_append, List.append_assoc, List.cons_append, scanSecond?,
        hsecond.digitField?_eq (endsRun_cons (isDecimalDigit_eq_false (hmarks mark isMark)))]
      simp [hmark, digits.digitField?_eq hrest.endsRun]

theorem SecondText.endsRun_append {second fraction : Option (List Char)}
    (h : SecondText cs second fraction) (hrest : EndsNumber rest) : EndsRun (cs ++ rest) := by
  cases h with
  | absent => exact hrest.endsRun
  | present digits isFraction => exact endsRun_colon _

theorem dropWord?_of_word {word : List Char} (h : equalIgnoringCase cs word = true)
    (rest : List Char) : dropWord? word (cs ++ rest) = some rest := by
  have hlength : word.length = cs.length := by
    rw [equalIgnoringCase, beq_iff_eq] at h
    simpa [lowerAscii] using (congrArg List.length h).symm
  rw [dropWord?, hlength, List.take_left, List.drop_left, if_pos h]

/-- What does not start with the first letter of a half of the day has none in front. -/
theorem scanHalf_of_head (h : ∀ c ∈ cs.head?, c.toLower ∉ ['a', 'p']) :
    scanHalf cs = (none, cs) := by
  have hnone : ∀ word ∈ ["am".toList, "pm".toList], dropWord? word cs = none := by
    intro word hword
    have hletters : ∀ word ∈ ["am".toList, "pm".toList],
        ∃ c d, word = [c, d] ∧ c ∈ ['a', 'p'] ∧ c.toLower = c := by
      intro word hword
      simp only [List.mem_cons, List.not_mem_nil, or_false] at hword
      rcases hword with rfl | rfl
      · exact ⟨'a', 'm', by decide, by decide, by decide⟩
      · exact ⟨'p', 'm', by decide, by decide, by decide⟩
    obtain ⟨a, b, rfl, ha, hlower⟩ := hletters word hword
    refine if_neg ?_
    cases cs with
    | nil => simp [equalIgnoringCase, lowerAscii]
    | cons c cs =>
      rw [equalIgnoringCase, beq_iff_eq]
      intro heq
      have hc : c.toLower = a.toLower := (List.cons.inj heq).1
      exact h c rfl (by rwa [hc, hlower])
  rw [scanHalf, hnone _ (by simp), hnone _ (by simp)]

theorem HalfText.scanHalf_eq {half : DayHalf} (h : HalfText cs (some half)) (rest : List Char) :
    scanHalf (cs ++ rest) = (some half, rest) := by
  cases h with
  | am word => rw [scanHalf, dropWord?_of_word word]
  | pm word =>
    have hnot : dropWord? "am".toList (cs ++ rest) = none := by
      refine if_neg fun ham => ?_
      have hlength : cs.length = 2 := by
        obtain ⟨c, d, rfl, -⟩ := exists_letters_of_word (by simp) word
        rfl
      have htake : (cs ++ rest).take "am".toList.length = cs := List.take_left' hlength
      rw [htake, equalIgnoringCase, beq_iff_eq] at ham
      rw [equalIgnoringCase, beq_iff_eq, ham] at word
      exact absurd word (by decide)
    rw [scanHalf, hnot, dropWord?_of_word word]

theorem HalfText.trimLeft_append {half : DayHalf} (h : HalfText cs (some half))
    (rest : List Char) : trimLeft (cs ++ rest) = cs ++ rest := by
  have hword {word : List Char} (hword : word ∈ ["am".toList, "pm".toList])
      (h : equalIgnoringCase cs word = true) : trimLeft (cs ++ rest) = cs ++ rest := by
    obtain ⟨c, d, rfl, hc⟩ := exists_letters_of_word hword h
    exact trimLeft_cons _ (not_blank_of_letter hc).1
  cases h with
  | am word => exact hword (by simp) word
  | pm word => exact hword (by simp) word

theorem OffsetText.trimLeft_append {offset : OffsetForm} (h : OffsetText cs (some offset))
    (rest : List Char) : trimLeft (cs ++ rest) = cs ++ rest := by
  have hhead := h.head
  cases cs with
  | nil => cases h
  | cons c cs => exact trimLeft_cons _ (not_blank_of_offsetHead c (hhead c rfl)).1

theorem OffsetText.scanOffset?_eq {offset : Option OffsetForm} (h : OffsetText cs offset)
    {back : List Char} (hback : isAllBlank back = true) :
    scanOffset? (trimLeft (cs ++ back)) = some offset := by
  have hends : EndsRun back := endsRun_of_isAllBlank hback
  cases h with
  | absent =>
    rw [List.nil_append, trimLeft_of_isAllBlank hback]
    rfl
  | @utc c isLetter =>
    have hletter : (c == 'Z' || c == 'z') = true := by simpa using isLetter
    rw [(OffsetText.utc isLetter).trimLeft_append, List.singleton_append, scanOffset?,
      if_pos hletter, if_pos hback]
  | @plain sign ds isSign digits =>
    have hletter : (sign == 'Z' || sign == 'z') = false := by rcases isSign with rfl | rfl <;> rfl
    have hsign : (sign == '+' || sign == '-') = true := by rcases isSign with rfl | rfl <;> rfl
    have hne : ds.isEmpty = false :=
      List.isEmpty_eq_false_iff.mpr (digits.isField (by decide)).ne_nil
    rw [(OffsetText.plain isSign digits).trimLeft_append, List.cons_append, scanOffset?]
    simp only [hletter, hsign, takeDigits_decimal digits.digits digits.le_most hends, hne,
      Bool.false_eq_true, if_true, if_false]
    split
    · have hcolon : isBlank ':' = true := List.all_eq_true.mp hback ':' List.mem_cons_self
      rw [isBlank_eq_false (by decide)] at hcolon
      cases hcolon
    · exact if_pos hback
  | @colon sign hs ms isSign hours minutes =>
    have hcut : takeDigits 4 (hs ++ ':' :: (ms ++ back)) = (hs, ':' :: (ms ++ back)) :=
      takeDigits_decimal hours.digits (Nat.le_trans hours.le_most (by decide)) (endsRun_colon _)
    rw [(OffsetText.colon isSign hours minutes).trimLeft_append, List.cons_append,
      List.append_assoc, List.cons_append]
    exact scanOffset?_colon isSign hcut (hours.isField (by decide)).ne_nil hours.le_most
      (minutes.digitField?_eq hends) hback

/-- The half of the day and the offset, each after blanks, up to the end. -/
theorem scanHalf_scanOffset?_eq {hs os gap₁ gap₂ back : List Char} {half : Option DayHalf}
    {offset : Option OffsetForm} (hgap₁ : isAllBlank gap₁ = true) (hhalf : HalfText hs half)
    (hgap₂ : isAllBlank gap₂ = true) (hoffset : OffsetText os offset)
    (hback : isAllBlank back = true) :
    ∃ rest, scanHalf (trimLeft (gap₁ ++ (hs ++ (gap₂ ++ (os ++ back))))) = (half, rest) ∧
      scanOffset? (trimLeft rest) = some offset := by
  have hscan := hoffset.scanOffset?_eq hback
  rw [trimLeft_append_of_isAllBlank hgap₁]
  cases half with
  | none =>
    cases hhalf
    refine ⟨trimLeft (os ++ back), ?_, by rwa [trimLeft_trimLeft]⟩
    rw [List.nil_append, trimLeft_append_of_isAllBlank hgap₂]
    refine scanHalf_of_head fun c hc => ?_
    cases offset with
    | none =>
      cases hoffset
      rw [List.nil_append, trimLeft_of_isAllBlank hback] at hc
      cases hc
    | some form =>
      have hhead := hoffset.head
      rw [hoffset.trimLeft_append] at hc
      cases os with
      | nil => cases hoffset
      | cons d os =>
        cases hc
        exact (not_blank_of_offsetHead c (hhead c rfl)).2.2.2
  | some half =>
    refine ⟨gap₂ ++ (os ++ back), ?_, by rwa [trimLeft_append_of_isAllBlank hgap₂]⟩
    rw [hhalf.trimLeft_append, hhalf.scanHalf_eq]

theorem TimeMark.dropTimeMark?_eq (h : TimeMark cs) (hds : IsField ds) (rest : List Char) :
    dropTimeMark? (cs ++ (ds ++ rest)) = some (ds ++ rest) := by
  cases h with
  | @letter c isMark =>
    have hmark : (c == 'T' || c == 't') = true := by simpa using isMark
    exact if_pos hmark
  | @blanks c blanks front blank =>
    have hmark : ¬ (c == 'T' || c == 't') = true := by
      have hletters : ∀ c ∈ ['T', 't'], 33 ≤ c.toNat ∧ c.toNat ≤ 126 := by decide
      intro hc
      rw [isBlank_eq_false (hletters c (by simpa using hc))] at front
      cases front
    rw [List.cons_append, dropTimeMark?, if_neg hmark, if_pos front,
      trimLeft_append_of_isAllBlank blank, hds.trimLeft_append]

theorem TimeText.scanTime?_eq {t : TimeForm} (h : TimeText cs t) : scanTime? cs = some t := by
  cases h with
  | intro isMark hourDigits minuteDigits isSecond blank₁ isHalf blank₂ isOffset blankBack =>
    have hends := (endsNumber_of_isAllBlank blank₁).append <| isHalf.endsNumber.append <|
      (endsNumber_of_isAllBlank blank₂).append <| isOffset.endsNumber.append <|
        endsNumber_of_isAllBlank blankBack
    obtain ⟨rest, hhalf, hoffset⟩ :=
      scanHalf_scanOffset?_eq blank₁ isHalf blank₂ isOffset blankBack
    rw [scanTime?]
    refine Option.bind_eq_some_iff.mpr
      ⟨_, isMark.dropTimeMark?_eq (hourDigits.isField (by decide)) _, ?_⟩
    refine Option.bind_eq_some_iff.mpr ⟨_, hourDigits.digitField?_eq (endsRun_colon _), ?_⟩
    refine Option.bind_eq_some_iff.mpr ⟨_, rfl, ?_⟩
    refine Option.bind_eq_some_iff.mpr
      ⟨_, minuteDigits.digitField?_eq (isSecond.endsRun_append hends), ?_⟩
    refine Option.bind_eq_some_iff.mpr ⟨_, isSecond.scanSecond?_eq hends, ?_⟩
    dsimp only
    rw [hhalf]
    exact Option.bind_eq_some_iff.mpr ⟨_, hoffset, rfl⟩

theorem AfterDateText.endsRun {time : Option TimeForm} (h : AfterDateText cs time) :
    EndsRun cs := by
  cases h with
  | blanks blank => exact endsRun_of_isAllBlank blank
  | time isTime => exact endsRun_of_scanTime? isTime.scanTime?_eq

theorem TimeText.isAllBlank_eq {t : TimeForm} (h : TimeText cs t) : isAllBlank cs = false := by
  cases h with
  | @intro mark hour _ _ _ _ _ _ _ _ _ _ _ isMark hourDigits =>
    have hfield := hourDigits.isField (by decide)
    obtain ⟨d, ds, hds⟩ := List.exists_cons_of_ne_nil hfield.ne_nil
    have hd : d ∈ hour := hds ▸ List.mem_cons_self
    refine List.all_eq_false.mpr ⟨d, ?_, by simp [isBlank_of_isDecimalDigit (hfield.digits d hd)]⟩
    exact List.mem_append_right _ (List.mem_append_left _ hd)

theorem NumericForm.IsText.scan?_eq {form : NumericForm} (h : form.IsText cs) :
    scan? cs = some form := by
  cases h with
  | @intro front a b c rest sep₁ sep₂ time blankFront aDigits isSeparator₁ bDigits isSeparator₂
      cDigits isRest =>
    have hdrop {c : Char} (hc : isDateSeparator c = true) (cs : List Char) :
        dropChar? isDateSeparator (c :: cs) = some cs := if_pos hc
    rw [scan?, trimLeft_append_of_isAllBlank blankFront,
      (aDigits.isField (by decide)).trimLeft_append]
    refine Option.bind_eq_some_iff.mpr
      ⟨_, aDigits.digitField?_eq (endsRun_separator isSeparator₁ _), ?_⟩
    refine Option.bind_eq_some_iff.mpr ⟨_, hdrop isSeparator₁ _, ?_⟩
    refine Option.bind_eq_some_iff.mpr
      ⟨_, bDigits.digitField?_eq (endsRun_separator isSeparator₂ _), ?_⟩
    refine Option.bind_eq_some_iff.mpr ⟨_, hdrop isSeparator₂ _, ?_⟩
    refine Option.bind_eq_some_iff.mpr ⟨_, cDigits.digitField?_eq isRest.endsRun, ?_⟩
    dsimp only
    cases isRest with
    | blanks blank => exact if_pos blank
    | time isTime =>
      rw [if_neg (by simp [isTime.isAllBlank_eq]), isTime.scanTime?_eq]
      rfl

end

/-! ## The grammar has what the scanner finds -/

section

variable {cs rest : List Char}

theorem timeMark_of_dropTimeMark? (h : dropTimeMark? cs = some rest) :
    ∃ mark, TimeMark mark ∧ cs = mark ++ rest := by
  cases cs with
  | nil => cases h
  | cons c cs =>
    rw [dropTimeMark?] at h
    split at h
    · next hmark =>
      cases h
      exact ⟨[c], .letter (by simpa using hmark), rfl⟩
    · split at h
      · next hblank =>
        cases h
        obtain ⟨blanks, hblanks, hcs⟩ := exists_blanks_append cs
        exact ⟨c :: blanks, .blanks hblank hblanks, congrArg (c :: ·) hcs⟩
      · cases h

theorem secondText_of_scanSecond? {second fraction : Option (List Char)}
    (h : scanSecond? cs = some (second, fraction, rest)) :
    ∃ ss, SecondText ss second fraction ∧ cs = ss ++ rest := by
  unfold scanSecond? at h
  split at h
  · obtain ⟨⟨ss, rest₁⟩, hss, next₁⟩ := Option.bind_eq_some_iff.mp h
    obtain ⟨hdigits, rfl⟩ := digitText_of_digitField? hss
    clear h
    dsimp only at next₁
    split at next₁
    · next c rest₂ =>
      split at next₁
      · next hmark =>
        obtain ⟨⟨fs, rest₃⟩, hfs, next₂⟩ := Option.bind_eq_some_iff.mp next₁
        obtain ⟨hfraction, rfl⟩ := digitText_of_digitField? hfs
        cases next₂
        exact ⟨_, .present hdigits (.present (by simpa using hmark) hfraction), by simp⟩
      · cases next₁
        exact ⟨_, .present hdigits .absent, by simp⟩
    · cases next₁
      exact ⟨_, .present hdigits .absent, by simp⟩
  · cases h
    exact ⟨[], .absent, rfl⟩

theorem halfText_of_scanHalf {half : Option DayHalf} (h : scanHalf cs = (half, rest)) :
    ∃ hs, HalfText hs half ∧ cs = hs ++ rest := by
  have hword {word rest : List Char} (h : dropWord? word cs = some rest) :
      equalIgnoringCase (cs.take word.length) word = true ∧ cs = cs.take word.length ++ rest := by
    rw [dropWord?] at h
    split at h
    · next hequal =>
      cases h
      exact ⟨hequal, (List.take_append_drop _ cs).symm⟩
    · cases h
  rw [scanHalf] at h
  split at h
  · next rest' ham =>
    cases h
    exact ⟨_, .am (hword ham).1, (hword ham).2⟩
  · split at h
    · next rest' hpm =>
      cases h
      exact ⟨_, .pm (hword hpm).1, (hword hpm).2⟩
    · cases h
      exact ⟨[], .absent, rfl⟩

theorem offsetText_of_scanOffset? {offset : Option OffsetForm} (h : scanOffset? cs = some offset) :
    ∃ os back, OffsetText os offset ∧ isAllBlank back = true ∧ cs = os ++ back := by
  unfold scanOffset? at h
  split at h
  · cases h
    exact ⟨[], [], .absent, rfl, rfl⟩
  · next c rest =>
    split at h
    · next hletter =>
      split at h
      · next hblank =>
        cases h
        exact ⟨[c], rest, .utc (by simpa using hletter), hblank, rfl⟩
      · cases h
    · split at h
      · next hsign =>
        have hsign : IsSign c := by
          simp only [Bool.or_eq_true, beq_iff_eq] at hsign
          exact hsign.symm
        have hrest := takeDigits_append 4 rest
        have hlength := takeDigits_length_le 4 rest
        have hdigits : ∀ d ∈ (takeDigits 4 rest).1, isDecimalDigit d = true :=
          fun d hd => isDecimalDigit_of_mem_takeDigits hd
        dsimp only at h
        generalize takeDigits 4 rest = cut at *
        split at h
        · cases h
        · next hne =>
          have hleast : 1 ≤ cut.1.length :=
            List.length_pos_iff.mpr fun hnil => hne (List.isEmpty_iff.mpr hnil)
          split at h
          · next rest₁ hcolon =>
            rw [hcolon] at hrest
            split at h
            · next htwo =>
              obtain ⟨⟨ms, back⟩, hms, next₁⟩ := Option.bind_eq_some_iff.mp h
              obtain ⟨hminutes, rfl⟩ := digitText_of_digitField? hms
              clear h
              split at next₁
              · next hblank =>
                cases next₁
                refine ⟨_, back, .colon hsign ⟨hdigits, hleast, htwo⟩ hminutes, hblank, ?_⟩
                rw [← hrest]
                simp
              · cases next₁
            · cases h
          · split at h
            · next hblank =>
              cases h
              refine ⟨_, cut.2, .plain hsign ⟨hdigits, hleast, hlength⟩, hblank, ?_⟩
              rw [← hrest]
              rfl
            · cases h
      · cases h

theorem timeText_of_scanTime? {t : TimeForm} (h : scanTime? cs = some t) : TimeText cs t := by
  unfold scanTime? at h
  obtain ⟨cs₁, hmark, next₁⟩ := Option.bind_eq_some_iff.mp h
  obtain ⟨⟨hour, cs₂⟩, hhour, next₂⟩ := Option.bind_eq_some_iff.mp next₁
  obtain ⟨cs₃, hcolon, next₃⟩ := Option.bind_eq_some_iff.mp next₂
  obtain ⟨⟨minute, cs₄⟩, hminute, next₄⟩ := Option.bind_eq_some_iff.mp next₃
  obtain ⟨⟨second, fraction, cs₅⟩, hsecond, next₅⟩ := Option.bind_eq_some_iff.mp next₄
  dsimp only at next₅
  rcases hhalf : scanHalf (trimLeft cs₅) with ⟨half, cs₆⟩
  rw [hhalf] at next₅
  obtain ⟨offset, hoffset, next₆⟩ := Option.bind_eq_some_iff.mp next₅
  cases next₆
  clear h next₁ next₂ next₃ next₄ next₅
  obtain ⟨mark, isMark, rfl⟩ := timeMark_of_dropTimeMark? hmark
  obtain ⟨hourDigits, rfl⟩ := digitText_of_digitField? hhour
  obtain ⟨c, rfl, hc⟩ := dropChar?_eq_some hcolon
  rw [beq_iff_eq] at hc
  subst hc
  obtain ⟨minuteDigits, rfl⟩ := digitText_of_digitField? hminute
  obtain ⟨ss, isSecond, rfl⟩ := secondText_of_scanSecond? hsecond
  -- Blanks are dropped before the half of the day and before the offset.
  obtain ⟨gap₁, blank₁, hcs₅⟩ := exists_blanks_append cs₅
  obtain ⟨hs, isHalf, htrim⟩ := halfText_of_scanHalf hhalf
  obtain ⟨gap₂, blank₂, hcs₆⟩ := exists_blanks_append cs₆
  obtain ⟨os, back, isOffset, blankBack, hos⟩ := offsetText_of_scanOffset? hoffset
  rw [hcs₅, htrim, hcs₆, hos]
  exact .intro isMark hourDigits minuteDigits isSecond blank₁ isHalf blank₂ isOffset blankBack

/-- The scanner finds exactly the form that the text has. -/
theorem NumericForm.scan?_eq_some_iff {form : NumericForm} :
    scan? cs = some form ↔ form.IsText cs := by
  refine ⟨fun h => ?_, IsText.scan?_eq⟩
  unfold scan? at h
  obtain ⟨⟨a, cs₁⟩, ha, next₁⟩ := Option.bind_eq_some_iff.mp h
  obtain ⟨cs₂, hsep₁, next₂⟩ := Option.bind_eq_some_iff.mp next₁
  obtain ⟨⟨b, cs₃⟩, hb, next₃⟩ := Option.bind_eq_some_iff.mp next₂
  obtain ⟨cs₄, hsep₂, next₄⟩ := Option.bind_eq_some_iff.mp next₃
  obtain ⟨⟨c, rest⟩, hc, next₅⟩ := Option.bind_eq_some_iff.mp next₄
  clear h next₁ next₂ next₃ next₄
  obtain ⟨front, blankFront, hcs⟩ := exists_blanks_append cs
  obtain ⟨aDigits, htrim⟩ := digitText_of_digitField? ha
  obtain ⟨sep₁, rfl, isSeparator₁⟩ := dropChar?_eq_some hsep₁
  obtain ⟨bDigits, rfl⟩ := digitText_of_digitField? hb
  obtain ⟨sep₂, rfl, isSeparator₂⟩ := dropChar?_eq_some hsep₂
  obtain ⟨cDigits, rfl⟩ := digitText_of_digitField? hc
  rw [hcs, htrim]
  dsimp only at next₅
  split at next₅
  · next hblank =>
    cases next₅
    exact .intro blankFront aDigits isSeparator₁ bDigits isSeparator₂ cDigits (.blanks hblank)
  · obtain ⟨t, ht, hform⟩ := Option.bind_eq_some_iff.mp next₅
    cases hform
    exact .intro blankFront aDigits isSeparator₁ bDigits isSeparator₂ cDigits
      (.time (timeText_of_scanTime? ht))

end

end RecordSieve.Calendar
