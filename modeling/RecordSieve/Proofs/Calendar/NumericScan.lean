/-
RecordSieve.Proofs.Calendar.NumericScan — what the scanner of numeric
dates cuts out.

Each scanner takes its field from the front of the text and leaves an
end of it, so the digits of an offset stand in the text; and a field of
digits has a bounded length (`NumericForm.scan?_cut`).  That keeps the
numbers small that are read from it: no step from digits to years,
hours, offsets and nanoseconds leaves the range of 32-bit integers.
-/
import RecordSieve.Proofs.Calendar.DigitRun

namespace RecordSieve.Calendar

open RecordSieve.Text RecordSieve.Decimal

/-! ## Fields of digits -/

theorem takeDigits_append (most : Nat) (cs : List Char) :
    (takeDigits most cs).1 ++ (takeDigits most cs).2 = cs := by
  induction most generalizing cs with
  | zero => cases cs <;> rfl
  | succ most ih =>
    cases cs with
    | nil => rfl
    | cons c cs =>
      rw [takeDigits]
      split
      · exact congrArg (c :: ·) (ih cs)
      · rfl

theorem takeDigits_length_le (most : Nat) (cs : List Char) :
    (takeDigits most cs).1.length ≤ most := by
  induction most generalizing cs with
  | zero => cases cs <;> simp [takeDigits]
  | succ most ih =>
    cases cs with
    | nil => simp [takeDigits]
    | cons c cs =>
      rw [takeDigits]
      split
      · simpa using ih cs
      · simp

theorem isDecimalDigit_of_mem_takeDigits {most : Nat} {cs : List Char} {d : Char}
    (h : d ∈ (takeDigits most cs).1) : isDecimalDigit d = true := by
  induction most generalizing cs with
  | zero => cases cs <;> cases h
  | succ most ih =>
    cases cs with
    | nil => cases h
    | cons c cs =>
      rw [takeDigits] at h
      split at h
      · next hc =>
        rcases List.mem_cons.mp h with rfl | h
        · exact hc
        · exact ih h
      · cases h

theorem digitField?_eq_some {least most : Nat} {cs ds rest : List Char}
    (h : digitField? least most cs = some (ds, rest)) :
    (∀ d ∈ ds, isDecimalDigit d = true) ∧ least ≤ ds.length ∧ ds.length ≤ most ∧
      ds ++ rest = cs := by
  rw [digitField?] at h
  dsimp only at h
  split at h
  · next hlength =>
    cases h
    exact ⟨fun d hd => isDecimalDigit_of_mem_takeDigits hd, hlength, takeDigits_length_le most cs,
      takeDigits_append most cs⟩
  · cases h

theorem digitField?_suffix {least most : Nat} {cs ds rest : List Char}
    (h : digitField? least most cs = some (ds, rest)) : rest <:+ cs :=
  ⟨ds, (digitField?_eq_some h).2.2.2⟩

/-! ## Marks -/

theorem dropChar?_eq_some {p : Char → Bool} {cs rest : List Char}
    (h : dropChar? p cs = some rest) : ∃ c, cs = c :: rest ∧ p c = true := by
  cases cs with
  | nil => cases h
  | cons c cs =>
    rw [dropChar?] at h
    split at h
    · next hc =>
      cases h
      exact ⟨c, rfl, hc⟩
    · cases h

theorem dropChar?_suffix {p : Char → Bool} {cs rest : List Char} (h : dropChar? p cs = some rest) :
    rest <:+ cs := by
  obtain ⟨c, rfl, -⟩ := dropChar?_eq_some h
  exact List.suffix_cons c rest

theorem trimLeft_suffix (cs : List Char) : trimLeft cs <:+ cs := List.dropWhile_suffix _

theorem dropTimeMark?_suffix {cs rest : List Char} (h : dropTimeMark? cs = some rest) :
    rest <:+ cs := by
  cases cs with
  | nil => cases h
  | cons c cs =>
    rw [dropTimeMark?] at h
    split at h
    · cases h
      exact List.suffix_cons c rest
    · split at h
      · cases h
        exact (trimLeft_suffix cs).trans (List.suffix_cons c cs)
      · cases h

theorem dropWord?_suffix {word cs rest : List Char} (h : dropWord? word cs = some rest) :
    rest <:+ cs := by
  rw [dropWord?] at h
  split at h
  · cases h
    exact List.drop_suffix _ _
  · cases h

theorem scanHalf_suffix (cs : List Char) : (scanHalf cs).2 <:+ cs := by
  rw [scanHalf]
  split
  · next hrest => exact dropWord?_suffix hrest
  · split
    · next hrest => exact dropWord?_suffix hrest
    · exact List.suffix_refl cs

/-! ## The time part -/

theorem scanSecond?_suffix {cs rest : List Char} {second fraction : Option (List Char)}
    (h : scanSecond? cs = some (second, fraction, rest)) : rest <:+ cs := by
  unfold scanSecond? at h
  split at h
  · next cs =>
    obtain ⟨⟨ds, rest₁⟩, hds, h⟩ := Option.bind_eq_some_iff.mp h
    have hrest₁ := (digitField?_suffix hds).trans (List.suffix_cons ':' cs)
    dsimp only at h
    split at h
    · next c rest₂ =>
      split at h
      · obtain ⟨⟨fs, rest₃⟩, hfs, h⟩ := Option.bind_eq_some_iff.mp h
        cases h
        exact (digitField?_suffix hfs).trans ((List.suffix_cons c rest₂).trans hrest₁)
      · cases h
        exact hrest₁
    · cases h
      exact List.nil_suffix
  · cases h
    exact List.suffix_refl _

/-- The digits of an offset without a colon are decimal digits of the text. -/
theorem scanOffset?_eq_plain {cs ds : List Char} {negative : Bool}
    (h : scanOffset? cs = some (some (.plain negative ds))) :
    ∀ d ∈ ds, isDecimalDigit d = true ∧ d ∈ cs := by
  unfold scanOffset? at h
  split at h
  · cases h
  · next c rest =>
    split at h
    · split at h <;> cases h
    · split at h
      · dsimp only at h
        split at h
        · cases h
        · split at h
          · next hcolon =>
            split at h
            · obtain ⟨⟨minutes, rest₁⟩, -, h⟩ := Option.bind_eq_some_iff.mp h
              dsimp only at h
              split at h <;> cases h
            · cases h
          · split at h
            · simp only [Option.some.injEq, OffsetForm.plain.injEq] at h
              rw [← h.2]
              intro d hd
              have hrest : d ∈ rest := by
                rw [← takeDigits_append 4 rest]
                exact List.mem_append_left _ hd
              exact ⟨isDecimalDigit_of_mem_takeDigits hd, List.mem_cons_of_mem _ hrest⟩
            · cases h
      · cases h

theorem scanTime?_offset {cs ds : List Char} {t : TimeForm} {negative : Bool}
    (h : scanTime? cs = some t) (hds : t.offset = some (.plain negative ds)) :
    ∀ d ∈ ds, isDecimalDigit d = true ∧ d ∈ cs := by
  unfold scanTime? at h
  obtain ⟨cs₁, h₁, h⟩ := Option.bind_eq_some_iff.mp h
  obtain ⟨⟨hour, cs₂⟩, h₂, h⟩ := Option.bind_eq_some_iff.mp h
  obtain ⟨cs₃, h₃, h⟩ := Option.bind_eq_some_iff.mp h
  obtain ⟨⟨minute, cs₄⟩, h₄, h⟩ := Option.bind_eq_some_iff.mp h
  obtain ⟨⟨second, fraction, cs₅⟩, h₅, h⟩ := Option.bind_eq_some_iff.mp h
  obtain ⟨offset, h₆, h⟩ := Option.bind_eq_some_iff.mp h
  cases h
  dsimp only at hds
  rw [hds] at h₆
  have hcs₅ : cs₅ <:+ cs :=
    (scanSecond?_suffix h₅).trans <| (digitField?_suffix h₄).trans <| (dropChar?_suffix h₃).trans <|
      (digitField?_suffix h₂).trans (dropTimeMark?_suffix h₁)
  have hrest := (trimLeft_suffix _).trans <| (scanHalf_suffix _).trans (trimLeft_suffix cs₅)
  intro d hd
  obtain ⟨hdigit, hmem⟩ := scanOffset?_eq_plain h₆ d hd
  exact ⟨hdigit, (hrest.trans hcs₅).subset hmem⟩

/-! ## The whole form -/

/-- What is known of a form that was cut out of a text: the lengths of
the fields that can be years, and what the digits of its offset are. -/
structure NumericForm.CutFrom (form : NumericForm) (cs : List Char) : Prop where
  a : form.a.length ≤ 4
  c : form.c.length ≤ 4
  offset : ∀ t negative ds, form.time = some t → t.offset = some (.plain negative ds) →
    ∀ d ∈ ds, isDecimalDigit d = true ∧ d ∈ cs

theorem NumericForm.scan?_cut {cs : List Char} {form : NumericForm} (h : scan? cs = some form) :
    form.CutFrom cs := by
  unfold scan? at h
  obtain ⟨⟨a, cs₁⟩, h₁, h⟩ := Option.bind_eq_some_iff.mp h
  obtain ⟨cs₂, h₂, h⟩ := Option.bind_eq_some_iff.mp h
  obtain ⟨⟨b, cs₃⟩, h₃, h⟩ := Option.bind_eq_some_iff.mp h
  obtain ⟨cs₄, h₄, h⟩ := Option.bind_eq_some_iff.mp h
  obtain ⟨⟨c, cs₅⟩, h₅, h⟩ := Option.bind_eq_some_iff.mp h
  have hcs₅ : cs₅ <:+ cs :=
    (digitField?_suffix h₅).trans <| (dropChar?_suffix h₄).trans <| (digitField?_suffix h₃).trans <|
      (dropChar?_suffix h₂).trans <| (digitField?_suffix h₁).trans (trimLeft_suffix cs)
  have ha := (digitField?_eq_some h₁).2.2.1
  have hc := (digitField?_eq_some h₅).2.2.1
  dsimp only at h
  split at h
  · cases h
    exact ⟨ha, hc, by simp⟩
  · obtain ⟨t, ht, h⟩ := Option.bind_eq_some_iff.mp h
    cases h
    refine ⟨ha, hc, fun t' negative ds ht' hds => ?_⟩
    cases ht'
    intro d hd
    obtain ⟨hdigit, hmem⟩ := scanTime?_offset ht hds d hd
    exact ⟨hdigit, hcs₅.subset hmem⟩

/-! ## The numbers read -/

theorem appendDigits_lt {start : Nat} {ds : List Char} (h : ds.all isAsciiDigit = true) :
    appendDigits start ds < (start + 1) * tenTo ds.length := by
  induction ds generalizing start with
  | nil => simp [appendDigits, tenTo]
  | cons d ds ih =>
    simp only [List.all_cons, Bool.and_eq_true, isAsciiDigit, decide_eq_true_eq] at h
    have hd : digitValue d ≤ 9 := by
      have hnine : d.toNat ≤ 57 := h.1.2
      rw [digitValue]
      omega
    have hstart : 10 * start + digitValue d + 1 ≤ (start + 1) * 10 := by omega
    calc appendDigits start (d :: ds)
        = appendDigits (10 * start + digitValue d) ds := rfl
      _ < (10 * start + digitValue d + 1) * tenTo ds.length := ih h.2
      _ ≤ (start + 1) * 10 * tenTo ds.length := Nat.mul_le_mul_right _ hstart
      _ = (start + 1) * tenTo (d :: ds).length := by
        rw [List.length_cons, tenTo_succ, Nat.mul_assoc, Nat.mul_comm 10]

theorem natOfDigits?_lt {ds : List Char} {n : Nat} (h : natOfDigits? ds = some n) :
    n < tenTo ds.length := by
  rw [natOfDigits?] at h
  split at h
  · next hds =>
    rw [Bool.and_eq_true] at hds
    cases h
    simpa using @appendDigits_lt 0 ds hds.2
  · cases h

theorem tenTo_le_tenTo {a b : Nat} (h : a ≤ b) : tenTo a ≤ tenTo b :=
  Nat.pow_le_pow_right (by decide) h

theorem yearField?_bounds {ds : List Char} {year : Int} (hlength : ds.length ≤ 4)
    (h : yearField? ds = some year) : 0 ≤ year ∧ year < 10000 := by
  obtain ⟨n, hn, rfl⟩ := Option.map_eq_some_iff.mp h
  have hlt := natOfDigits?_lt hn
  have hfour : tenTo ds.length ≤ 10000 := tenTo_le_tenTo hlength
  rw [expandYear]
  split
  · next hshort =>
    have htwo : tenTo ds.length ≤ 100 := tenTo_le_tenTo hshort
    split <;> omega
  · omega

/-- Digits that have a value are counted alike as characters and as bytes. -/
theorem fractionNanos?_eq (most : Nat) (ds : List Char) : fractionNanos? most ds =
    if ds.length ≤ most then (natOfDigits? ds).map (· * tenTo (9 - ds.length)) else none := by
  rw [fractionNanos?]
  cases hn : natOfDigits? ds with
  | none => simp
  | some n => rw [byteLength_of_oneByte (oneByte_of_natOfDigits? hn)]

theorem fractionNanos?_of_le {most n : Nat} {ds : List Char} (number : natOfDigits? ds = some n)
    (hlength : ds.length ≤ most) : fractionNanos? most ds = some (n * tenTo (9 - ds.length)) := by
  rw [fractionNanos?_eq, if_pos hlength, number]
  rfl

/-- A fraction of a second is less than a second. -/
theorem number_mul_tenTo_lt {ds : List Char} {n places : Nat} (number : natOfDigits? ds = some n)
    (hlength : ds.length ≤ places) (hplaces : places ≤ 9) :
    n * tenTo (9 - places) < tenTo 9 := by
  have hnine : places + (9 - places) = 9 := by omega
  calc n * tenTo (9 - places)
      < tenTo ds.length * tenTo (9 - places) :=
        Nat.mul_lt_mul_of_pos_right (natOfDigits?_lt number) (tenTo_pos _)
    _ ≤ tenTo places * tenTo (9 - places) := Nat.mul_le_mul_right _ (tenTo_le_tenTo hlength)
    _ = tenTo (places + (9 - places)) := (Nat.pow_add ..).symm
    _ = tenTo 9 := by rw [hnine]

theorem fractionNanos?_lt {most nanos : Nat} {ds : List Char} (hmost : most ≤ 9)
    (h : fractionNanos? most ds = some nanos) : nanos < 1000000000 := by
  rw [fractionNanos?_eq] at h
  split at h
  · next hlength =>
    obtain ⟨n, hn, rfl⟩ := Option.map_eq_some_iff.mp h
    exact number_mul_tenTo_lt hn (Nat.le_refl _) (Nat.le_trans hlength hmost)
  · cases h

theorem hourOfHalf?_lt {half : DayHalf} {hour hour' : Nat}
    (h : hourOfHalf? half hour = some hour') : hour' < 24 := by
  unfold hourOfHalf? at h
  split at h
  · next hrange =>
    simp only [Bool.and_eq_true, decide_eq_true_eq] at hrange
    cases half <;> cases h <;> omega
  · cases h

theorem offsetSeconds?_bounds {negative : Bool} {hours minutes : List Char} {seconds : Int}
    (h : offsetSeconds? negative hours minutes = some seconds) :
    -53940 ≤ seconds ∧ seconds ≤ 53940 := by
  rw [offsetSeconds?] at h
  obtain ⟨hs, -, h⟩ := Option.bind_eq_some_iff.mp h
  obtain ⟨ms, -, h⟩ := Option.bind_eq_some_iff.mp h
  split at h
  · next hrange =>
    simp only [Bool.and_eq_true, decide_eq_true_eq] at hrange
    have hhours : hs ≤ 14 := hrange.1
    cases negative <;> cases h <;> simp <;> omega
  · cases h

end RecordSieve.Calendar
