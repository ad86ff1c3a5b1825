/-
RecordSieve.Proofs.Calendar.MonthName — dates with the month's name.

The month is written in full or with three letters, in either case
(`IsMonthName`), and stands before the day or after it.  Of the templates
for such dates one takes each of the two, and finds the numbers that the
digits of the day and the year have (`readItems?_nameFirst`,
`readItems?_dayFirst`); no other form takes them.

Digits of other scripts have no value.  A number then ends in front of
one of them (`scanNumber?_cases`), and nothing that may follow a number
starts with a digit.
-/
import RecordSieve.Proofs.Calendar.NumericText

namespace RecordSieve.Calendar

open RecordSieve.Text RecordSieve.Decimal

/-! ## Names -/

/-- The months with their English names. -/
def monthTitles : List (Nat × String) :=
  [(1, "January"), (2, "February"), (3, "March"), (4, "April"), (5, "May"), (6, "June"),
   (7, "July"), (8, "August"), (9, "September"), (10, "October"), (11, "November"),
   (12, "December")]

/-- The name of a month, in full or its first three letters, in any case. -/
def IsMonthName (month : Nat) (cs : List Char) : Prop :=
  ∃ title, (month, title) ∈ monthTitles ∧
    (equalIgnoringCase cs title.toList = true ∨
      equalIgnoringCase cs (title.toList.take 3) = true)

section

variable {month : Nat} {ns ds ys cs rest rest' : List Char} {f f' : Fields}

/-- Where the tables of names have a month. -/
theorem monthTitles_names : ∀ p ∈ monthTitles, 1 ≤ p.1 ∧ (p.2.toList.take 3).length = 3 ∧
    monthNames.findIdx? (fun name => lowerAscii (p.2.toList.take 3) == lowerAscii name.1.toList) =
      some (p.1 - 1) ∧
    monthNames[p.1 - 1]?.map (fun name => lowerAscii name.2.toList) =
      some (lowerAscii (p.2.toList.drop 3)) ∧
    weekdayNames.findIdx? (fun name => lowerAscii (p.2.toList.take 3) == lowerAscii name.1.toList) =
      none := by
  decide +kernel

theorem monthTitles_letters : ∀ p ∈ monthTitles, ∀ c ∈ lowerAscii p.2.toList,
    65 ≤ c.toNat ∧ c.toNat ≤ 122 := by
  decide +kernel

/-- A month's name is three letters and, in full, the letters after them. -/
theorem IsMonthName.split (h : IsMonthName month ns) :
    ∃ title short tail, (month, title) ∈ monthTitles ∧ ns = short ++ tail ∧
      lowerAscii short = lowerAscii (title.toList.take 3) ∧
      (tail = [] ∨ lowerAscii tail = lowerAscii (title.toList.drop 3)) := by
  obtain ⟨title, htitle, hfull | hshort⟩ := h
  · rw [equalIgnoringCase, beq_iff_eq] at hfull
    refine ⟨title, ns.take 3, ns.drop 3, htitle, (List.take_append_drop 3 ns).symm, ?_, .inr ?_⟩
    · simpa [lowerAscii] using congrArg (List.take 3) hfull
    · simpa [lowerAscii] using congrArg (List.drop 3) hfull
  · rw [equalIgnoringCase, beq_iff_eq] at hshort
    exact ⟨title, ns, [], htitle, (List.append_nil ns).symm, hshort, .inl rfl⟩

theorem letters_of_lowerAscii {as bs : List Char} (h : lowerAscii as = lowerAscii bs)
    (hbs : ∀ c ∈ lowerAscii bs, 65 ≤ c.toNat ∧ c.toNat ≤ 122) :
    ∀ c ∈ as, 65 ≤ c.toNat ∧ c.toNat ≤ 122 := by
  intro c hc
  have hlower : c.toLower ∈ lowerAscii bs := h ▸ List.mem_map_of_mem hc
  exact letter_of_toLower (hbs _ hlower) rfl

theorem IsMonthName.letters (h : IsMonthName month ns) :
    ∀ c ∈ ns, 65 ≤ c.toNat ∧ c.toNat ≤ 122 := by
  obtain ⟨title, short, tail, htitle, rfl, hshort, htail⟩ := h.split
  have hletters := monthTitles_letters _ htitle
  have hpart {part : List Char} (hpart : part ⊆ title.toList) :
      ∀ c ∈ lowerAscii part, 65 ≤ c.toNat ∧ c.toNat ≤ 122 := fun c hc =>
    hletters c (List.map_subset _ hpart hc)
  intro c hc
  rcases List.mem_append.mp hc with hc | hc
  · exact letters_of_lowerAscii hshort (hpart (List.take_subset 3 _)) c hc
  · rcases htail with rfl | htail
    · cases hc
    · exact letters_of_lowerAscii htail (hpart (List.drop_subset 3 _)) c hc

theorem IsMonthName.ne_nil (h : IsMonthName month ns) : ns ≠ [] := by
  obtain ⟨title, short, tail, htitle, rfl, hshort, -⟩ := h.split
  have hlength := (monthTitles_names _ htitle).2.1
  intro hnil
  rw [(List.append_eq_nil_iff.mp hnil).1] at hshort
  have hzero : 0 = (lowerAscii (title.toList.take 3)).length := congrArg List.length hshort
  rw [lowerAscii, List.length_map, hlength] at hzero
  cases hzero

theorem scanShortName?_append {names : List Name} {short word : List Char}
    (hlower : lowerAscii short = lowerAscii word) (hlength : word.length = 3) (rest : List Char) :
    scanShortName? names (short ++ rest) =
      (names.findIdx? fun name => lowerAscii word == lowerAscii name.1.toList).map fun i =>
        (i, rest) := by
  have hshort : short.length = 3 := by
    have := congrArg List.length hlower
    rwa [lowerAscii, lowerAscii, List.length_map, List.length_map, hlength] at this
  rw [scanShortName?, List.take_left' hshort, List.drop_left' hshort]
  simp only [equalIgnoringCase, hlower]

/-- The name of a month is read as far as it goes. -/
theorem IsMonthName.scanName?_eq (h : IsMonthName month ns) (rest : List Char) :
    scanName? monthNames (ns ++ ' ' :: rest) = some (month - 1, ' ' :: rest) := by
  obtain ⟨title, short, tail, htitle, rfl, hshort, htail⟩ := h.split
  obtain ⟨-, hlength, hindex, hname, -⟩ := monthTitles_names _ htitle
  obtain ⟨name, hget, hlong⟩ := Option.map_eq_some_iff.mp hname
  dsimp only at hindex hget
  rw [List.append_assoc, scanName?, scanShortName?_append hshort hlength, hindex]
  simp only [Option.map_some, hget, Option.bind_some]
  rcases htail with rfl | htail
  · -- After a short name the blank does not go on as the full one.
    have hblank : dropWord? name.2.toList (' ' :: rest) = none ∨
        dropWord? name.2.toList (' ' :: rest) = some (' ' :: rest) := by
      have hnames : ∀ name ∈ monthNames, ∀ c ∈ name.2.toList, c.toLower ≠ ' ' := by decide
      cases hletters : name.2.toList with
      | nil => exact .inr rfl
      | cons c letters =>
        refine .inl (if_neg fun hequal => ?_)
        rw [equalIgnoringCase, beq_iff_eq, List.length_cons, List.take_succ_cons] at hequal
        have hc : ' ' = c.toLower := (List.cons.inj hequal).1
        exact hnames name (List.mem_of_getElem? hget) c (hletters ▸ List.mem_cons_self) hc.symm
    rcases hblank with hblank | hblank <;> rw [List.nil_append, hblank]
  · have hword : equalIgnoringCase tail name.2.toList = true := by
      rw [equalIgnoringCase, beq_iff_eq, htail, hlong]
    rw [dropWord?_of_word hword]

/-- Without its full names, what a table leaves of a month's name are letters. -/
theorem IsMonthName.scanShortName?_eq (h : IsMonthName month ns) :
    ∃ i tail, (∀ c ∈ tail, 65 ≤ c.toNat ∧ c.toNat ≤ 122) ∧
      ∀ rest, scanShortName? monthNames (ns ++ rest) = some (i, tail ++ rest) := by
  have hletters := h.letters
  obtain ⟨title, short, tail, htitle, rfl, hshort, -⟩ := h.split
  obtain ⟨-, hlength, hindex, -, -⟩ := monthTitles_names _ htitle
  refine ⟨month - 1, tail, fun c hc => hletters c (List.mem_append_right short hc), fun rest => ?_⟩
  rw [List.append_assoc, scanShortName?_append hshort hlength, hindex]
  rfl

/-- No month has the name of a day. -/
theorem IsMonthName.scanShortName?_weekday (h : IsMonthName month ns) (rest : List Char) :
    scanShortName? weekdayNames (ns ++ rest) = none := by
  obtain ⟨title, short, tail, htitle, rfl, hshort, -⟩ := h.split
  obtain ⟨-, hlength, -, -, hnone⟩ := monthTitles_names _ htitle
  rw [List.append_assoc, scanShortName?_append hshort hlength, hnone]
  rfl

theorem IsMonthName.trimLeft_append (h : IsMonthName month ns) (rest : List Char) :
    trimLeft (ns ++ rest) = ns ++ rest := by
  obtain ⟨c, ns', rfl⟩ := List.exists_cons_of_ne_nil h.ne_nil
  exact trimLeft_cons _ (not_blank_of_letter (h.letters c List.mem_cons_self)).1

theorem IsMonthName.endsRun (h : IsMonthName month ns) (rest : List Char) :
    EndsRun (ns ++ rest) := by
  obtain ⟨c, ns', rfl⟩ := List.exists_cons_of_ne_nil h.ne_nil
  exact endsRun_cons (not_blank_of_letter (h.letters c List.mem_cons_self)).2.1

/-! ## Numbers -/

theorem leadingDigits_field {most : Nat} (hmost : ds.length ≤ most) (hrest : EndsRun rest) :
    leadingDigits most (ds ++ rest) = ds.takeWhile isAsciiDigit := by
  rw [leadingDigits, List.take_append, List.take_of_length_le hmost, List.takeWhile_append]
  split
  · next hall =>
    rw [(hrest.take _).takeWhile_eq_nil, List.append_nil]
    exact ((List.takeWhile_prefix _).eq_of_length hall).symm
  · rfl

/-- A number is read from a whole field, or ends in front of a digit of another script. -/
theorem scanNumber?_cases {least most n : Nat} (hds : IsField ds) (hmost : ds.length ≤ most)
    (hrest : EndsRun rest) (h : scanNumber? least most (ds ++ rest) = some (n, rest')) :
    natOfDigits? ds = some n ∧ rest' = rest ∨
      ∃ c tail, rest' = c :: tail ∧ isDecimalDigit c = true ∧ isAsciiDigit c = false := by
  have hcut : ds.takeWhile isAsciiDigit ++ ds.dropWhile isAsciiDigit = ds :=
    List.takeWhile_append_dropWhile
  have hdrop : (ds ++ rest).drop (ds.takeWhile isAsciiDigit).length =
      ds.dropWhile isAsciiDigit ++ rest := by
    rw [← hcut, List.append_assoc, hcut, List.drop_left]
  rw [scanNumber?, leadingDigits_field hmost hrest] at h
  split at h
  · obtain ⟨n', hn, heq⟩ := Option.map_eq_some_iff.mp h
    rw [hdrop] at heq
    cases heq
    cases hwide : ds.dropWhile isAsciiDigit with
    | nil =>
      rw [hwide, List.append_nil] at hcut
      rw [hcut] at hn
      exact .inl ⟨hn, rfl⟩
    | cons c tail =>
      have hnot := List.head?_dropWhile_not isAsciiDigit ds
      rw [hwide, List.head?_cons] at hnot
      have hmem : c ∈ ds := (List.dropWhile_sublist _).subset (hwide ▸ List.mem_cons_self)
      exact .inr ⟨c, tail ++ rest, rfl, hds.digits c hmem, by simpa using hnot⟩
  · cases h

theorem scanYear?_eq_none {c : Char} (hc : isAsciiDigit c = false) (hsign : ¬ IsSign c)
    (cs : List Char) : scanYear? (c :: cs) = none := by
  rw [scanYear?.eq_def]
  split
  · next heq =>
    cases heq
    exact absurd (.inl rfl) hsign
  · next heq =>
    cases heq
    exact absurd (.inr rfl) hsign
  · have hnone : leadingDigits 4 (c :: cs) = [] := by
      rw [leadingDigits, List.take_succ_cons]
      exact List.takeWhile_cons_of_neg (by simp [hc])
    rw [scanNumber?, hnone]
    rfl

/-! ## Templates -/

/-- A year at the end of a text is the number of its digits. -/
theorem readItems?_lastYear (hys : DigitText 1 4 ys) :
    readItems? [.year] f ys = some f' ↔
      ∃ year : Nat, natOfDigits? ys = some year ∧ f' = { f with year := some (year : Int) } := by
  have hfield := hys.isField Nat.zero_lt_one
  have hread : Item.year.read? f ys =
      (scanNumber? 1 4 (ys ++ [])).map fun p => ({ f with year := some (p.1 : Int) }, p.2) := by
    have hyear := scanYear?_field hfield []
    rw [List.append_nil] at hyear
    rw [Item.read?, hfield.trimLeft_eq, hyear, List.append_nil, Option.map_map]
    rfl
  rw [readItems?, hread]
  constructor
  · intro h
    obtain ⟨⟨f₁, cs₁⟩, hpair, hend⟩ := Option.bind_eq_some_iff.mp h
    obtain ⟨⟨year, back⟩, hscan, heq⟩ := Option.map_eq_some_iff.mp hpair
    clear h hpair
    cases heq
    obtain ⟨hnil, rfl⟩ := readItems?_nil_eq_some_iff.mp hend
    rcases scanNumber?_cases hfield hys.le_most endsRun_nil hscan with ⟨hn, -⟩ | ⟨c, tail, rfl, -⟩
    · exact ⟨year, hn, rfl⟩
    · cases hnil
  · rintro ⟨year, hn, rfl⟩
    rw [scanNumber?_of_number hn hys.least_le hys.le_most endsRun_nil]
    rfl

theorem readItems?_name (h : IsMonthName month ns) (items : List Item) (f : Fields)
    (rest : List Char) :
    readItems? (.monthName :: items) f (ns ++ ' ' :: rest) =
      readItems? items { f with month := some month } (' ' :: rest) := by
  have hmonth : month - 1 + 1 = month := by
    obtain ⟨title, htitle, -⟩ := h
    exact Nat.sub_add_cancel (monthTitles_names _ htitle).1
  rw [readItems?, Item.read?, h.scanName?_eq]
  simp [hmonth]

theorem trimLeft_blank (h : trimLeft cs = cs) : trimLeft (' ' :: cs) = cs := by
  have hblank : isAllBlank [' '] = true := by decide
  exact (trimLeft_append_of_isAllBlank hblank cs).trans h

/-- The text of a date with the month first. -/
def nameFirst (ns ds ys : List Char) : List Char := ns ++ ' ' :: (ds ++ ',' :: ' ' :: ys)

/-- The text of a date with the day first. -/
def dayFirst (ns ds ys : List Char) : List Char := ds ++ ' ' :: (ns ++ ' ' :: ys)

/-- The fields of a date with the month's name. -/
def NamedFields (month : Nat) (ds ys : List Char) (f : Fields) : Prop :=
  ∃ day year : Nat, natOfDigits? ds = some day ∧ natOfDigits? ys = some year ∧
    f = { year := some (year : Int), month := some month, day := some day }

theorem readItems?_nameFirst (hname : IsMonthName month ns) (hds : DigitText 1 2 ds)
    (hys : DigitText 1 4 ys) :
    readItems? [.monthName, .blank, .day, .literal ',', .blank, .year] {} (nameFirst ns ds ys) =
      some f ↔ NamedFields month ds ys f := by
  have hfield := hds.isField Nat.zero_lt_one
  have hyear := (hys.isField Nat.zero_lt_one).trimLeft_eq
  have hcomma : isDecimalDigit ',' = false := isDecimalDigit_eq_false (by decide)
  have hday := hfield.trimLeft_append (',' :: ' ' :: ys)
  have hmonth : readItems? [.monthName, .blank, .day, .literal ',', .blank, .year] {}
      (nameFirst ns ds ys) = readItems? [.day, .literal ',', .blank, .year]
        { month := some month } (ds ++ ',' :: ' ' :: ys) := by
    rw [nameFirst, readItems?_name hname]
    exact congrArg (readItems? _ _) (trimLeft_blank hday)
  rw [hmonth]
  constructor
  · intro h
    obtain ⟨day, rest, hn, hrest, hlast⟩ :=
      readItems?_field (fun n => { month := some month, day := some n }) 1 2 hfield
        (endsRun_cons hcomma) hcomma (by rw [Item.read?, hday]) h
    obtain ⟨-, rfl⟩ := List.cons.inj hrest
    have hlast : readItems? [.year] { month := some month, day := some day } ys = some f := by
      rw [← trimLeft_blank hyear]
      exact hlast
    obtain ⟨year, hy, rfl⟩ := (readItems?_lastYear hys).mp hlast
    exact ⟨day, year, hn, hy, rfl⟩
  · rintro ⟨day, year, hn, hy, rfl⟩
    have hscan : scanNumber? 1 2 (ds ++ ',' :: ' ' :: ys) = some (day, ',' :: ' ' :: ys) :=
      scanNumber?_of_number hn hds.least_le hds.le_most (endsRun_cons hcomma)
    have hlast : readItems? [.year] { month := some month, day := some day } ys = some _ :=
      (readItems?_lastYear hys).mpr ⟨year, hy, rfl⟩
    rw [readItems?, Item.read?, hday, hscan]
    simpa [readItems?, Item.read?, trimLeft_blank hyear] using hlast

theorem readItems?_dayFirst (hname : IsMonthName month ns) (hds : DigitText 1 2 ds)
    (hys : DigitText 1 4 ys) :
    readItems? [.day, .blank, .monthName, .blank, .year] {} (dayFirst ns ds ys) = some f ↔
      NamedFields month ds ys f := by
  have hfield := hds.isField Nat.zero_lt_one
  have hyear := (hys.isField Nat.zero_lt_one).trimLeft_eq
  have hblank : isDecimalDigit ' ' = false := isDecimalDigit_eq_false (by decide)
  have hday := hfield.trimLeft_append (' ' :: (ns ++ ' ' :: ys))
  -- What follows the day, when it is read whole.
  have hmonth (day : Nat) : readItems? [.blank, .monthName, .blank, .year] { day := some day }
      (' ' :: (ns ++ ' ' :: ys)) =
        readItems? [.year] { month := some month, day := some day } ys := by
    have htrim : readItems? [.blank, .monthName, .blank, .year] { day := some day }
        (' ' :: (ns ++ ' ' :: ys)) = readItems? [.monthName, .blank, .year] { day := some day }
          (ns ++ ' ' :: ys) :=
      congrArg (readItems? _ _) (trimLeft_blank (hname.trimLeft_append _))
    rw [htrim, readItems?_name hname]
    exact congrArg (readItems? _ _) (trimLeft_blank hyear)
  constructor
  · intro h
    obtain ⟨⟨f₁, cs₁⟩, hpair, hrest⟩ := Option.bind_eq_some_iff.mp h
    obtain ⟨⟨day, back⟩, hscan, heq⟩ := Option.map_eq_some_iff.mp hpair
    clear h hpair
    cases heq
    dsimp only at hrest
    rw [dayFirst, hday] at hscan
    rcases scanNumber?_cases hfield hds.le_most (endsRun_cons hblank) hscan with
      ⟨hn, rfl⟩ | ⟨c, tail, rfl, hdigit, -⟩
    · rw [hmonth] at hrest
      obtain ⟨year, hy, rfl⟩ := (readItems?_lastYear hys).mp hrest
      exact ⟨day, year, hn, hy, rfl⟩
    · have hnone : scanName? monthNames (trimLeft (c :: tail)) = none := by
        have hfront : IsFront c := .inl hdigit
        rw [trimLeft_cons tail hfront.isBlank_eq_false]
        exact scanName?_of_no_letter monthNames_start hfront.no_letter
      simp [readItems?, Item.read?, hnone] at hrest
  · rintro ⟨day, year, hn, hy, rfl⟩
    have hscan : scanNumber? 1 2 (ds ++ ' ' :: (ns ++ ' ' :: ys)) =
        some (day, ' ' :: (ns ++ ' ' :: ys)) :=
      scanNumber?_of_number hn hds.least_le hds.le_most (endsRun_cons hblank)
    have hlast : readItems? [.year] { month := some month, day := some day } ys = some _ :=
      (readItems?_lastYear hys).mpr ⟨year, hy, rfl⟩
    rw [dayFirst, readItems?, Item.read?, hday, hscan]
    exact (hmonth day).trans hlast

end

end RecordSieve.Calendar
