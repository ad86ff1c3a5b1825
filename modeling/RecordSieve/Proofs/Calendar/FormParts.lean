/-
RecordSieve.Proofs.Calendar.FormParts — what a form was read from.

A reader that gives a moment has gone through all its steps.  What these
were is stated here once for each form: the date, the time of day and the
offset of the moment, and where in the text they stand
(`NumericForm.moment?_eq_ok_iff`, `Fields.moment?_eq_some_iff`,
`readTimestamp?_eq_some`).  Of a template, what each of its items keeps
is kept by the whole (`readItems?_invariant`).
-/
import RecordSieve.Calendar.Reader
import RecordSieve.Proofs.Calendar.DigitRun
import RecordSieve.Proofs.Outcome

namespace RecordSieve.Calendar

open RecordSieve.Text RecordSieve.Decimal

variable {cs rest : List Char} {f f' : Fields} {m : Moment}

/-! ## Numeric dates -/

theorem NumericForm.moment?_eq_ok_iff {form : NumericForm} {order : DateOrder} :
    form.moment? order = .ok (some m) ↔ form.date? order = some m.date ∧
      form.clockTime? = some m.time ∧ form.offset? = .ok (some m.offset) := by
  rw [moment?]
  constructor
  · intro h
    split at h
    · next date time hdate htime =>
      obtain ⟨offset, hoffset, h⟩ := bind_eq_ok_iff.mp h
      obtain ⟨seconds, rfl, hlocal⟩ := Option.bind_eq_some_iff.mp (Except.ok.inj h)
      obtain ⟨rfl, rfl, rfl⟩ := Moment.ofLocal?_eq_some_iff.mp hlocal
      exact ⟨hdate, htime, hoffset⟩
    · cases h
  · rintro ⟨hdate, htime, hoffset⟩
    rw [hdate, htime, hoffset]
    exact congrArg Except.ok (Moment.ofLocal?_eq_some_iff.mpr ⟨rfl, rfl, rfl⟩)

/-! ## Templates -/

theorem Item.read?_literal {c : Char} (h : (literal c).read? f cs = some (f', rest)) :
    cs = c :: rest ∧ f' = f := by
  cases cs with
  | nil => cases h
  | cons d cs =>
    rw [Item.read?] at h
    split at h
    · next hc =>
      cases h
      exact ⟨by rw [beq_iff_eq.mp hc], rfl⟩
    · cases h

theorem readItems?_nil_eq_some_iff : readItems? [] f cs = some f' ↔ cs = [] ∧ f' = f := by
  cases cs <;> simp [readItems?, eq_comm]

theorem readItems?_literal {c : Char} {items : List Item}
    (h : readItems? (.literal c :: items) f cs = some f') :
    ∃ rest, cs = c :: rest ∧ readItems? items f rest = some f' := by
  obtain ⟨⟨f₁, rest⟩, hread, hitems⟩ := Option.bind_eq_some_iff.mp h
  obtain ⟨rfl, rfl⟩ := Item.read?_literal hread
  exact ⟨rest, rfl, hitems⟩

/-- What each item keeps is kept by the run over all of them. -/
theorem readItems?_invariant {p : Fields → Prop} {items : List Item}
    (hitem : ∀ item ∈ items, ∀ f f' cs rest, p f → item.read? f cs = some (f', rest) → p f')
    (hf : p f) (h : readItems? items f cs = some f') : p f' := by
  induction items generalizing f cs with
  | nil =>
    obtain ⟨-, rfl⟩ := readItems?_nil_eq_some_iff.mp h
    exact hf
  | cons item items ih =>
    obtain ⟨⟨f₁, rest⟩, hread, h⟩ := Option.bind_eq_some_iff.mp h
    exact ih (fun item hmem => hitem item (List.mem_cons_of_mem _ hmem))
      (hitem item List.mem_cons_self f f₁ cs rest hf hread) h

theorem Fields.moment?_eq_some_iff : f.moment? = some m ↔
    f.date? = some m.date ∧ f.clockTime? = some m.time ∧ m.offset = f.offset.getD 0 := by
  simp only [moment?, Option.bind_eq_bind, Option.bind_eq_some_iff, Moment.ofLocal?_eq_some_iff]
  constructor
  · rintro ⟨date, hdate, time, htime, rfl, rfl, hoffset⟩
    exact ⟨hdate, htime, hoffset⟩
  · rintro ⟨hdate, htime, hoffset⟩
    exact ⟨_, hdate, _, htime, rfl, rfl, hoffset⟩

theorem readTemplate?_eq_some_iff {items : List Item} : readTemplate? items cs = some m ↔
    ∃ f, readItems? items {} cs = some f ∧ f.date? = some m.date ∧ f.clockTime? = some m.time ∧
      m.offset = f.offset.getD 0 := by
  simp only [readTemplate?, Option.bind_eq_some_iff, Fields.moment?_eq_some_iff]

/-! ## Timestamps -/

theorem dropLiteral?_eq_some {c : Char} (h : dropLiteral? c cs = some rest) : cs = c :: rest := by
  cases cs with
  | nil => cases h
  | cons d cs =>
    rw [dropLiteral?] at h
    split at h
    · next hd =>
      cases h
      rw [beq_iff_eq.mp hd]
    · cases h

theorem dropDateTimeMark?_eq_some (h : dropDateTimeMark? cs = some rest) :
    ∃ c, cs = c :: rest ∧ isDecimalDigit c = false := by
  have hmarks : ∀ c ∈ ['T', 't', ' '], c.toNat < 128 ∧ isAsciiDigit c = false := by decide
  cases cs with
  | nil => cases h
  | cons c cs =>
    rw [dropDateTimeMark?] at h
    split at h
    · next hc =>
      cases h
      exact ⟨c, rfl, isDecimalDigit_eq_false (hmarks c (by simpa [or_assoc] using hc))⟩
    · cases h

theorem scanNumber?_suffix {least most n : Nat} (h : scanNumber? least most cs = some (n, rest)) :
    rest <:+ cs := by
  obtain ⟨ds, rfl, -⟩ := scanNumber?_eq_some h
  exact List.suffix_append ds rest

theorem dropLiteral?_suffix {c : Char} (h : dropLiteral? c cs = some rest) : rest <:+ cs :=
  dropLiteral?_eq_some h ▸ List.suffix_cons c rest

theorem scanFraction?_suffix {nanos : Nat} (h : scanFraction? cs = some (nanos, rest)) :
    rest <:+ cs := by
  unfold scanFraction? at h
  split at h
  · next cs =>
    obtain ⟨n, -, heq⟩ := Option.map_eq_some_iff.mp h
    cases heq
    exact (List.dropWhile_suffix _).trans <| (List.drop_suffix _ cs).trans (List.suffix_cons '.' cs)
  · cases h
    exact List.suffix_refl cs

/-- A timestamp is the three numbers of its date with dashes between them,
a mark, a time of day, and its offset at the end. -/
theorem readTimestamp?_eq_some (h : readTimestamp? cs = some m) :
    (∃ year month day mark cs₁ cs₂ cs₃ off, scanNumber? 4 4 cs = some (year, '-' :: cs₁) ∧
      scanNumber? 2 2 cs₁ = some (month, '-' :: cs₂) ∧
      scanNumber? 2 2 cs₂ = some (day, mark :: cs₃) ∧ isDecimalDigit mark = false ∧
      Date.ofFields? year month day = some m.date ∧
      off <:+ cs₃ ∧ scanTimestampOffset? off = some (m.offset, [])) ∧
    ∃ hour minute second nanos,
      ClockTime.ofFieldsWithLeap? hour minute second nanos = some m.time := by
  unfold readTimestamp? at h
  -- Date and time of day, each number after its mark.
  obtain ⟨⟨year, _⟩, hyear, next₁⟩ := Option.bind_eq_some_iff.mp h
  obtain ⟨cs₁, hdash₁, next₂⟩ := Option.bind_eq_some_iff.mp next₁
  obtain ⟨⟨month, _⟩, hmonth, next₃⟩ := Option.bind_eq_some_iff.mp next₂
  obtain ⟨cs₂, hdash₂, next₄⟩ := Option.bind_eq_some_iff.mp next₃
  obtain ⟨⟨day, _⟩, hday, next₅⟩ := Option.bind_eq_some_iff.mp next₄
  obtain ⟨cs₃, hmark, next₆⟩ := Option.bind_eq_some_iff.mp next₅
  obtain ⟨⟨hour, _⟩, hhour, next₇⟩ := Option.bind_eq_some_iff.mp next₆
  obtain ⟨_, hcolon₁, next₈⟩ := Option.bind_eq_some_iff.mp next₇
  obtain ⟨⟨minute, _⟩, hminute, next₉⟩ := Option.bind_eq_some_iff.mp next₈
  obtain ⟨_, hcolon₂, next₁₀⟩ := Option.bind_eq_some_iff.mp next₉
  obtain ⟨⟨second, _⟩, hsecond, next₁₁⟩ := Option.bind_eq_some_iff.mp next₁₀
  obtain ⟨⟨nanos, off⟩, hnanos, next₁₂⟩ := Option.bind_eq_some_iff.mp next₁₁
  -- The offset, and the moment of all of them.
  obtain ⟨⟨offset, back⟩, hoffset, next₁₃⟩ := Option.bind_eq_some_iff.mp next₁₂
  clear h next₁ next₂ next₃ next₄ next₅ next₆ next₇ next₈ next₉ next₁₀ next₁₁ next₁₂
  dsimp only at next₁₃ hdash₁ hdash₂ hmark
  split at next₁₃
  · next hback =>
    obtain ⟨date, hdate, next₁₄⟩ := Option.bind_eq_some_iff.mp next₁₃
    obtain ⟨time, htime, hlocal⟩ := Option.bind_eq_some_iff.mp next₁₄
    obtain ⟨rfl, rfl, rfl⟩ := Moment.ofLocal?_eq_some_iff.mp hlocal
    obtain ⟨mark, hcs₃, hmark⟩ := dropDateTimeMark?_eq_some hmark
    have hsuffix : off <:+ cs₃ := (scanFraction?_suffix hnanos).trans <|
      (scanNumber?_suffix hsecond).trans <| (dropLiteral?_suffix hcolon₂).trans <|
      (scanNumber?_suffix hminute).trans <| (dropLiteral?_suffix hcolon₁).trans <|
      scanNumber?_suffix hhour
    rw [dropLiteral?_eq_some hdash₁] at hyear
    rw [dropLiteral?_eq_some hdash₂] at hmonth
    rw [hcs₃] at hday
    rw [List.isEmpty_iff.mp hback] at hoffset
    exact ⟨⟨year, month, day, mark, cs₁, cs₂, cs₃, off, hyear, hmonth, hday, hmark, hdate, hsuffix,
      hoffset⟩, hour, minute, second, nanos, htime⟩
  · cases next₁₃

/-! ## All forms -/

theorem readMoment_eq_ok_iff {locale : Locale} {text : String} :
    readMoment locale text = .ok m ↔ read? locale text = .ok (some m) := by
  rw [readMoment, bind_eq_ok_iff]
  simp [ofOption_eq_ok_iff, ofOutcome_eq_ok_iff]

end RecordSieve.Calendar
