/-
RecordSieve.Proofs.Calendar.Fallback — what the other forms make of a
numeric date.

A text in the numeric form starts with digits, a separator and digits
(`LaidOut`), and the numeric reading can still refuse it.  Then the other
forms have their turn.  Those with names take nothing that starts so.
The others have the year first, a dash after each of the first two
numbers, and no digit after the third; so the numbers that they find are
the three of the numeric form (`scanNumber?_field`), and the date is the
one that those write out, year first and as it stands (`Writes`).
-/
import RecordSieve.Proofs.Calendar.NumericScan
import RecordSieve.Proofs.Calendar.WrittenForms

namespace RecordSieve.Calendar

open RecordSieve.Text RecordSieve.Decimal

/-! ## The text of a numeric date -/

/-- One or more decimal digits, of any script. -/
structure IsField (ds : List Char) : Prop where
  ne_nil : ds ≠ []
  digits : ∀ d ∈ ds, isDecimalDigit d = true

/-- Three numbers with separators between them, and what follows. -/
structure NumericForm.LaidOut (form : NumericForm) (sep₁ sep₂ : Char) (rest cs : List Char) :
    Prop where
  text : cs = form.a ++ sep₁ :: (form.b ++ sep₂ :: (form.c ++ rest))
  a : IsField form.a
  b : IsField form.b
  c : IsField form.c
  isSeparator₁ : isDateSeparator sep₁ = true
  isSeparator₂ : isDateSeparator sep₂ = true
  ends : EndsRun rest

theorem digitField?_isField {least most : Nat} {cs ds rest : List Char} (hleast : 0 < least)
    (h : digitField? least most cs = some (ds, rest)) : IsField ds ∧ cs = ds ++ rest := by
  obtain ⟨hdigits, hlength, -, happend⟩ := digitField?_eq_some h
  exact ⟨⟨List.length_pos_iff.mp (Nat.lt_of_lt_of_le hleast hlength), hdigits⟩, happend.symm⟩

theorem decimalDigitRanges_outside_blankRanges :
    ∀ digits ∈ decimalDigitRanges, ∀ blanks ∈ blankRanges,
      digits.2 < blanks.1 ∨ blanks.2 < digits.1 := by
  decide +kernel

theorem isBlank_of_isDecimalDigit {c : Char} (h : isDecimalDigit c = true) : isBlank c = false := by
  refine Bool.eq_false_iff.mpr fun hblank => ?_
  obtain ⟨digits, hdigits, hin⟩ := inRanges_eq_true_iff.mp h
  obtain ⟨blanks, hblanks, hin'⟩ := inRanges_eq_true_iff.mp hblank
  have := decimalDigitRanges_outside_blankRanges digits hdigits blanks hblanks
  omega

theorem isDecimalDigit_of_isBlank {c : Char} (h : isBlank c = true) : isDecimalDigit c = false := by
  refine Bool.eq_false_iff.mpr fun hdigit => ?_
  rw [isBlank_of_isDecimalDigit hdigit] at h
  cases h

/-- What may follow the three numbers starts with no digit. -/
theorem endsRun_of_isAllBlank {cs : List Char} (h : isAllBlank cs = true) : EndsRun cs := by
  intro c hc
  exact isDecimalDigit_of_isBlank (List.all_eq_true.mp h c (List.mem_of_mem_head? hc))

theorem endsRun_of_scanTime? {cs : List Char} {t : TimeForm} (h : scanTime? cs = some t) :
    EndsRun cs := by
  obtain ⟨cs', hmark, -⟩ := Option.bind_eq_some_iff.mp h
  cases cs with
  | nil => exact endsRun_nil
  | cons c cs =>
    rw [dropTimeMark?] at hmark
    split at hmark
    · next hc =>
      rw [Bool.or_eq_true, beq_iff_eq, beq_iff_eq] at hc
      have hletters : ∀ c ∈ ['T', 't'], c.toNat < 128 ∧ isAsciiDigit c = false := by decide
      exact endsRun_cons (isDecimalDigit_eq_false (hletters c (by simpa using hc)))
    · split at hmark
      · next hc => exact endsRun_cons (isDecimalDigit_of_isBlank hc)
      · cases hmark

/-- A text in the numeric form is laid out so. -/
theorem NumericForm.scan?_laidOut {cs : List Char} {form : NumericForm}
    (h : scan? cs = some form) : ∃ sep₁ sep₂ rest, form.LaidOut sep₁ sep₂ rest (trimLeft cs) := by
  unfold scan? at h
  obtain ⟨⟨a, cs₁⟩, h₁, next₁⟩ := Option.bind_eq_some_iff.mp h
  obtain ⟨cs₂, h₂, next₂⟩ := Option.bind_eq_some_iff.mp next₁
  obtain ⟨⟨b, cs₃⟩, h₃, next₃⟩ := Option.bind_eq_some_iff.mp next₂
  obtain ⟨cs₄, h₄, next₄⟩ := Option.bind_eq_some_iff.mp next₃
  obtain ⟨⟨c, rest⟩, h₅, next₅⟩ := Option.bind_eq_some_iff.mp next₄
  clear h next₁ next₂ next₃ next₄
  obtain ⟨ha, hcs⟩ := digitField?_isField (by decide) h₁
  obtain ⟨sep₁, rfl, hsep₁⟩ := dropChar?_eq_some h₂
  obtain ⟨hb, rfl⟩ := digitField?_isField (by decide) h₃
  obtain ⟨sep₂, rfl, hsep₂⟩ := dropChar?_eq_some h₄
  obtain ⟨hc, rfl⟩ := digitField?_isField (by decide) h₅
  dsimp only at next₅
  split at next₅
  · next hblank =>
    cases next₅
    exact ⟨sep₁, sep₂, rest, hcs, ha, hb, hc, hsep₁, hsep₂, endsRun_of_isAllBlank hblank⟩
  · obtain ⟨t, ht, hform⟩ := Option.bind_eq_some_iff.mp next₅
    cases hform
    exact ⟨sep₁, sep₂, rest, hcs, ha, hb, hc, hsep₁, hsep₂, endsRun_of_scanTime? ht⟩

/-! ## Forms with names -/

/-- A character that the start of a numeric date consists of. -/
def IsFront (c : Char) : Prop := isDecimalDigit c = true ∨ isDateSeparator c = true

theorem IsFront.isBlank_eq_false {c : Char} (h : IsFront c) : isBlank c = false := by
  rcases h with h | h
  · exact isBlank_of_isDecimalDigit h
  · have hmarks : ∀ c ∈ ['/', '.', '-'], 33 ≤ c.toNat ∧ c.toNat ≤ 126 := by decide
    exact Calendar.isBlank_eq_false (hmarks c (by simpa [isDateSeparator, or_assoc] using h))

theorem IsFront.no_letter {c : Char} (h : IsFront c) : c.toNat < 65 ∨ 122 < c.toNat := by
  rcases h with h | h
  · by_cases hascii : c.toNat < 128
    · have := toNat_of_isAsciiDigit (isAsciiDigit_of_ascii h hascii)
      omega
    · omega
  · have hmarks : ∀ c ∈ ['/', '.', '-'], c.toNat < 65 := by decide
    exact .inl (hmarks c (by simpa [isDateSeparator, or_assoc] using h))

/-- A field of digits starts no name. -/
theorem IsField.scanShortName?_eq_none {ds : List Char} {names : List Name} (h : IsField ds)
    (hnames : StartWithLetters names) (tail : List Char) :
    scanShortName? names (ds ++ tail) = none := by
  obtain ⟨d, ds', rfl⟩ := List.exists_cons_of_ne_nil h.ne_nil
  have hfront : IsFront d := .inl (h.digits d List.mem_cons_self)
  exact scanShortName?_of_no_letter hnames hfront.no_letter

theorem dropBlanks?_cons {c : Char} {tail : List Char} (h : isBlank c = false) :
    dropBlanks? (c :: tail) = none := by
  rw [dropBlanks?, h]
  rfl

variable {form : NumericForm} {sep₁ sep₂ : Char} {rest cs : List Char}

namespace NumericForm.LaidOut

/-- After one or two characters the start of a numeric date still goes on. -/
theorem exists_front_of_drop (h : form.LaidOut sep₁ sep₂ rest cs) {k : Nat} (hk : k ≤ 2) :
    ∃ c tail, cs.drop k = c :: tail ∧ IsFront c := by
  have ha := List.length_pos_iff.mpr h.a.ne_nil
  have hb := List.length_pos_iff.mpr h.b.ne_nil
  have hlength : k < (form.a ++ sep₁ :: form.b).length := by
    rw [List.length_append, List.length_cons]
    omega
  have hfront : ∀ c ∈ form.a ++ sep₁ :: form.b, IsFront c := by
    intro c hc
    rcases List.mem_append.mp hc with hc | hc
    · exact .inl (h.a.digits c hc)
    · rcases List.mem_cons.mp hc with rfl | hc
      · exact .inr h.isSeparator₁
      · exact .inl (h.b.digits c hc)
  have htext : cs = (form.a ++ sep₁ :: form.b) ++ sep₂ :: (form.c ++ rest) := by
    rw [h.text, List.append_assoc, List.cons_append]
  rw [htext, List.drop_append_of_le_length (Nat.le_of_lt hlength),
    List.drop_eq_getElem_cons hlength]
  exact ⟨_, _, rfl, hfront _ (List.getElem_mem hlength)⟩

theorem trimLeft_eq (h : form.LaidOut sep₁ sep₂ rest cs) : trimLeft cs = cs := by
  obtain ⟨c, tail, hcs, hc⟩ := h.exists_front_of_drop (Nat.zero_le 2)
  rw [List.drop_zero] at hcs
  rw [hcs]
  exact trimLeft_cons tail hc.isBlank_eq_false

/-- A numeric date starts with no name, and with no day before one. -/
theorem readMonthName?_eq_none (h : form.LaidOut sep₁ sep₂ rest cs) : readMonthName? cs = none := by
  have hname {k : Nat} (hk : k ≤ 2) {names : List Name} (hnames : StartWithLetters names) :
      scanName? names (trimLeft (cs.drop k)) = none := by
    obtain ⟨c, tail, hcs, hc⟩ := h.exists_front_of_drop hk
    rw [hcs, trimLeft_cons tail hc.isBlank_eq_false]
    exact scanName?_of_no_letter hnames hc.no_letter
  have hfront := @hname 0 (Nat.zero_le 2)
  rw [List.drop_zero, h.trimLeft_eq] at hfront
  refine Calendar.readMonthName?_eq_none (hfront monthNames_start) (hfront weekdayNames_start) ?_
  intro n tail hscan
  rw [h.trimLeft_eq] at hscan
  obtain ⟨k, hk, rfl⟩ := eq_drop_of_scanNumber? hscan
  exact hname hk monthNames_start

/-- In a message date a blank follows the day. -/
theorem readMessageDate?_eq_none (h : form.LaidOut sep₁ sep₂ rest cs) :
    readMessageDate? cs = none := by
  have hweekday : scanMessageWeekday? cs = some (none, cs) := by
    obtain ⟨c, tail, hcs, hc⟩ := h.exists_front_of_drop (Nat.zero_le 2)
    rw [List.drop_zero] at hcs
    rw [scanMessageWeekday?, hcs, scanShortName?_of_no_letter weekdayNames_start hc.no_letter]
  rw [readMessageDate?, h.trimLeft_eq, hweekday]
  refine Option.bind_eq_none_iff.mpr fun p hp => ?_
  cases hp
  dsimp only
  rw [h.trimLeft_eq]
  refine Option.bind_eq_none_iff.mpr fun p hday => ?_
  obtain ⟨k, hk, hdrop⟩ := eq_drop_of_scanNumber? hday
  obtain ⟨c, tail, hcs, hc⟩ := h.exists_front_of_drop hk
  rw [hdrop, hcs, dropBlanks?_cons hc.isBlank_eq_false]
  rfl

end NumericForm.LaidOut

/-! ## Forms with the year first -/

/-- The date that three numbers write out, the year first and as it stands. -/
structure NumericForm.Writes (form : NumericForm) (d : Date) : Prop where
  year : ∃ n : Nat, natOfDigits? form.a = some n ∧ d.year = n
  month : natOfDigits? form.b = some d.month
  day : natOfDigits? form.c = some d.day

/-- A number that ends where the digits of a field end is the field's. -/
theorem scanNumber?_field {least most n : Nat} {ds tail rest : List Char} {c : Char}
    (hds : IsField ds) (htail : EndsRun tail)
    (h : scanNumber? least most (ds ++ tail) = some (n, c :: rest))
    (hc : isDecimalDigit c = false) :
    natOfDigits? ds = some n ∧ tail = c :: rest ∧ least ≤ ds.length := by
  obtain ⟨digits, htext, hn, hleast, -⟩ := scanNumber?_eq_some h
  -- Both cut the text where its first run of digits ends.
  have hends : EndsRun (c :: rest) := endsRun_cons hc
  obtain ⟨htake, hdrop⟩ := hends.cut (isDecimalDigit_of_number hn)
  obtain ⟨htake', hdrop'⟩ := htail.cut hds.digits
  rw [← htext, htake'] at htake
  rw [← htext, hdrop'] at hdrop
  subst htake
  exact ⟨hn, hdrop, hleast⟩

theorem IsField.trimLeft_append {ds : List Char} (h : IsField ds) (tail : List Char) :
    trimLeft (ds ++ tail) = ds ++ tail := by
  obtain ⟨d, ds', rfl⟩ := List.exists_cons_of_ne_nil h.ne_nil
  exact trimLeft_cons _ (isBlank_of_isDecimalDigit (h.digits d List.mem_cons_self))

theorem IsField.trimLeft_eq {ds : List Char} (h : IsField ds) : trimLeft ds = ds := by
  simpa using h.trimLeft_append []

theorem endsRun_separator {c : Char} (hc : isDateSeparator c = true) (tail : List Char) :
    EndsRun (c :: tail) := by
  have hmarks : ∀ c ∈ ['/', '.', '-'], c.toNat < 128 ∧ isAsciiDigit c = false := by decide
  exact endsRun_cons (isDecimalDigit_eq_false
    (hmarks c (by simpa [isDateSeparator, or_assoc] using hc)))

theorem Writes.ofFields {form : NumericForm} {year month day : Nat} {d : Date}
    (ha : natOfDigits? form.a = some year) (hb : natOfDigits? form.b = some month)
    (hc : natOfDigits? form.c = some day) (hd : Date.ofFields? year month day = some d) :
    form.Writes d := by
  obtain ⟨hyear, rfl, rfl⟩ := Date.ofFields?_eq_some_iff.mp hd
  exact ⟨⟨year, ha, hyear⟩, hb, hc⟩

/-! ### Timestamps -/

/-- A timestamp has the three numbers of the numeric form, and four digits in the first. -/
theorem NumericForm.LaidOut.of_readTimestamp? {m : Moment} (h : form.LaidOut sep₁ sep₂ rest cs)
    (hm : readTimestamp? cs = some m) : form.Writes m.date ∧ 4 ≤ form.a.length := by
  have hdash : isDecimalDigit '-' = false := isDecimalDigit_eq_false (by decide)
  obtain ⟨⟨year, month, day, mark, cs₁, cs₂, cs₃, off, hyear, hmonth, hday, hmark, hdate, -⟩, -⟩ :=
    readTimestamp?_eq_some hm
  -- The numbers found are the fields, one after the other.
  rw [h.text] at hyear
  obtain ⟨ha, htail₁, hfour⟩ :=
    scanNumber?_field h.a (endsRun_separator h.isSeparator₁ _) hyear hdash
  rw [← (List.cons.inj htail₁).2] at hmonth
  obtain ⟨hb, htail₂, -⟩ :=
    scanNumber?_field h.b (endsRun_separator h.isSeparator₂ _) hmonth hdash
  rw [← (List.cons.inj htail₂).2] at hday
  obtain ⟨hc, -, -⟩ := scanNumber?_field h.c h.ends hday hmark
  exact ⟨Writes.ofFields ha hb hc hdate, hfour⟩

/-! ### Templates -/

/-- Whether an item of a template leaves the date alone. -/
def Item.isClock : Item → Bool
  | year | month | day | monthName | weekdayName => false
  | _ => true

theorem Item.read?_date {item : Item} {f f' : Fields} {cs rest : List Char}
    (hitem : item.isClock = true) (h : item.read? f cs = some (f', rest)) : f'.date? = f.date? := by
  cases item with
  | literal c => rw [(Item.read?_literal h).2]
  | blank =>
    cases h
    rfl
  | year | month | day | monthName | weekdayName => cases hitem
  | hour | minute | second | fraction | offset =>
    obtain ⟨p, -, heq⟩ := Option.map_eq_some_iff.mp h
    cases heq
    rfl

theorem readItems?_date {items : List Item} {f f' : Fields} {cs : List Char}
    (hitems : ∀ item ∈ items, item.isClock = true) (h : readItems? items f cs = some f') :
    f'.date? = f.date? := by
  refine readItems?_invariant (p := fun f' => f'.date? = f.date?)
    (fun item hitem f₁ f₂ cs rest hf hread => ?_) rfl h
  rw [Item.read?_date (hitems item hitem) hread, hf]

/-- A number with a literal after it is read from a field. -/
theorem readItems?_field {item : Item} {items : List Item} {f f' : Fields} {ds tail : List Char}
    {c : Char} (set : Nat → Fields) (least most : Nat) (hds : IsField ds) (htail : EndsRun tail)
    (hc : isDecimalDigit c = false)
    (hitem : item.read? f (ds ++ tail) =
      (scanNumber? least most (ds ++ tail)).map fun p => (set p.1, p.2))
    (h : readItems? (item :: .literal c :: items) f (ds ++ tail) = some f') :
    ∃ n rest, natOfDigits? ds = some n ∧ tail = c :: rest ∧
      readItems? items (set n) rest = some f' := by
  obtain ⟨⟨f₁, cs₁⟩, hread, hitems⟩ := Option.bind_eq_some_iff.mp h
  obtain ⟨rest, rfl, hrest⟩ := readItems?_literal hitems
  rw [hitem] at hread
  obtain ⟨⟨n, cs₂⟩, hscan, heq⟩ := Option.map_eq_some_iff.mp hread
  cases heq
  obtain ⟨hn, htail, -⟩ := scanNumber?_field hds htail hscan hc
  exact ⟨n, rest, hn, htail, hrest⟩

theorem scanYear?_field {ds : List Char} (hds : IsField ds) (tail : List Char) :
    scanYear? (ds ++ tail) =
      (scanNumber? 1 4 (ds ++ tail)).map fun p => ((p.1 : Int), p.2) := by
  obtain ⟨d, ds', rfl⟩ := List.exists_cons_of_ne_nil hds.ne_nil
  have hd := hds.digits d List.mem_cons_self
  have hne {c : Char} (hc : IsSign c) : d ≠ c := by
    rintro rfl
    rw [hc.isDecimalDigit_eq_false] at hd
    cases hd
  rw [List.cons_append, scanYear?.eq_def]
  split
  · next heq =>
    cases heq
    exact absurd rfl (hne (.inl rfl))
  · next heq =>
    cases heq
    exact absurd rfl (hne (.inr rfl))
  · rfl

/-- A template with the date first has the three numbers of the numeric
form with dashes between them, and goes on after a capital T. -/
theorem NumericForm.LaidOut.of_readItems? {f : Fields} {items : List Item}
    (h : form.LaidOut sep₁ sep₂ rest cs)
    (hf : readItems? ([.year, .literal '-', .month, .literal '-', .day, .literal 'T'] ++ items) {}
      cs = some f) :
    ∃ (year month day : Nat) (after : List Char), natOfDigits? form.a = some year ∧
      natOfDigits? form.b = some month ∧ natOfDigits? form.c = some day ∧
      (sep₁ = '-' ∧ sep₂ = '-' ∧ rest = 'T' :: after) ∧
      readItems? items { year := some (year : Int), month := some month, day := some day } after =
        some f := by
  have hdash : isDecimalDigit '-' = false := isDecimalDigit_eq_false (by decide)
  have hT : isDecimalDigit 'T' = false := isDecimalDigit_eq_false (by decide)
  rw [h.text] at hf
  obtain ⟨year, cs₁, ha, htail₁, hf₁⟩ :=
    readItems?_field (fun n => { year := some (n : Int) }) 1 4 h.a
      (endsRun_separator h.isSeparator₁ _) hdash (by
        rw [Item.read?, h.a.trimLeft_append, scanYear?_field h.a, Option.map_map]
        rfl) hf
  obtain ⟨rfl, rfl⟩ := List.cons.inj htail₁
  obtain ⟨month, cs₂, hb, htail₂, hf₂⟩ :=
    readItems?_field (fun n => { year := some (year : Int), month := some n }) 1 2 h.b
      (endsRun_separator h.isSeparator₂ _) hdash (by rw [Item.read?, h.b.trimLeft_append]) hf₁
  obtain ⟨rfl, rfl⟩ := List.cons.inj htail₂
  obtain ⟨day, after, hc, hrest, hf₃⟩ :=
    readItems?_field (fun n => { year := some (year : Int), month := some month, day := some n })
      1 2 h.c h.ends hT (by rw [Item.read?, h.c.trimLeft_append]) hf₂
  exact ⟨year, month, day, after, ha, hb, hc, ⟨rfl, rfl, hrest⟩, hf₃⟩

theorem NumericForm.LaidOut.of_readTemplate? {m : Moment} {items : List Item}
    (h : form.LaidOut sep₁ sep₂ rest cs) (hitems : ∀ item ∈ items, item.isClock = true)
    (hm : readTemplate? ([.year, .literal '-', .month, .literal '-', .day, .literal 'T'] ++ items)
      cs = some m) :
    form.Writes m.date ∧ sep₁ = '-' ∧ sep₂ = '-' ∧ ∃ after, rest = 'T' :: after := by
  obtain ⟨f, hf, hdate, -⟩ := readTemplate?_eq_some_iff.mp hm
  obtain ⟨year, month, day, after, ha, hb, hc, ⟨hsep₁, hsep₂, hrest⟩, hafter⟩ := h.of_readItems? hf
  rw [readItems?_date hitems hafter] at hdate
  have hdate : Date.ofFields? year month day = some m.date := by simpa [Fields.date?] using hdate
  exact ⟨Writes.ofFields ha hb hc hdate, hsep₁, hsep₂, after, hrest⟩

/-- What the forms that are the same in every locale make of a numeric
date: the date that its numbers write out, and only if the first has four
digits, or if there are dashes between them and a capital T after them. -/
theorem NumericForm.LaidOut.of_readFixed? {m : Moment} (h : form.LaidOut sep₁ sep₂ rest cs)
    (hm : readFixed? cs = some m) :
    form.Writes m.date ∧
      (4 ≤ form.a.length ∨ sep₁ = '-' ∧ sep₂ = '-' ∧ ∃ after, rest = 'T' :: after) := by
  rw [readFixed?, h.readMessageDate?_eq_none, Option.none_or, Option.or_eq_some_iff,
    Option.or_eq_some_iff] at hm
  have hclock : ∀ item ∈ [Item.hour, .literal ':', .minute, .literal ':', .second, .fraction,
      .offset], item.isClock = true := by decide
  rcases hm with hm | ⟨-, hm | ⟨-, hm⟩⟩
  · obtain ⟨hwrites, hfour⟩ := h.of_readTimestamp? hm
    exact ⟨hwrites, .inl hfour⟩
  · obtain ⟨hwrites, hshape⟩ := h.of_readTemplate? hclock hm
    exact ⟨hwrites, .inr hshape⟩
  · obtain ⟨hwrites, hshape⟩ := h.of_readTemplate?
      (fun item hitem => hclock item ((List.dropLast_sublist _).subset hitem)) hm
    exact ⟨hwrites, .inr hshape⟩

end RecordSieve.Calendar
