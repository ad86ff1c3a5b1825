/-
RecordSieve.Proofs.Calendar.DigitRun — reading a number off the front of
a text.

The readers of dates take digits for as long as there are any, up to a
limit.  A number that was written with leading zeros is read back by each
of them, provided that what follows does not go on with a digit of any
script (`EndsRun`); the rest of the text is left as it is.
-/
import Mathlib.Data.List.TakeWhile
import RecordSieve.Calendar.NumericForm
import RecordSieve.Calendar.Template
import RecordSieve.Proofs.Decimal.Padded
import RecordSieve.Proofs.Text.Size

namespace RecordSieve.Calendar

open RecordSieve.Text RecordSieve.Decimal

/-! ## Digits and blanks -/

theorem toNat_of_isAsciiDigit {c : Char} (h : isAsciiDigit c = true) :
    48 ≤ c.toNat ∧ c.toNat ≤ 57 := by
  simp only [isAsciiDigit, Bool.and_eq_true, decide_eq_true_eq] at h
  exact h

theorem isDecimalDigit_of_isAsciiDigit {c : Char} (h : isAsciiDigit c = true) :
    isDecimalDigit c = true :=
  inRanges_eq_true_iff.mpr ⟨(0x30, 0x39), by simp [decimalDigitRanges], toNat_of_isAsciiDigit h⟩

/-- The ASCII characters hold the decimal digits of one script only. -/
theorem isAsciiDigit_of_ascii {c : Char} (h : isDecimalDigit c = true) (hascii : c.toNat < 128) :
    isAsciiDigit c = true := by
  have hranges : ∀ range ∈ decimalDigitRanges, range = (0x30, 0x39) ∨ 128 ≤ range.1 := by
    decide +kernel
  obtain ⟨range, hrange, hlow, hhigh⟩ := inRanges_eq_true_iff.mp h
  rcases hranges range hrange with rfl | hwide
  · simp only [isAsciiDigit, Bool.and_eq_true, decide_eq_true_eq]
    exact ⟨hlow, hhigh⟩
  · omega

theorem isDecimalDigit_eq_false {c : Char} (h : c.toNat < 128 ∧ isAsciiDigit c = false) :
    isDecimalDigit c = false := by
  refine Bool.eq_false_iff.mpr fun hdigit => ?_
  have hascii := isAsciiDigit_of_ascii hdigit h.1
  rw [h.2] at hascii
  cases hascii

/-- No ASCII character that is seen on a page is a blank. -/
theorem isBlank_eq_false {c : Char} (h : 33 ≤ c.toNat ∧ c.toNat ≤ 126) : isBlank c = false := by
  have hranges : ∀ range ∈ blankRanges, range.2 < 33 ∨ 126 < range.1 := by decide
  refine Bool.eq_false_iff.mpr fun hblank => ?_
  obtain ⟨range, hrange, hin⟩ := inRanges_eq_true_iff.mp hblank
  have := hranges range hrange
  omega

theorem exists_natOfDigits? {ds : List Char} (hne : ds ≠ [])
    (hds : ∀ d ∈ ds, isAsciiDigit d = true) : ∃ n, natOfDigits? ds = some n :=
  ⟨_, if_pos (by
    rw [List.isEmpty_eq_false_iff.mpr hne, List.all_eq_true.mpr hds]
    rfl)⟩

/-- A number is made of one or more ASCII digits. -/
theorem natOfDigits?_eq_some {ds : List Char} {n : Nat} (h : natOfDigits? ds = some n) :
    ds ≠ [] ∧ ds.all isAsciiDigit = true ∧ n = appendDigits 0 ds := by
  rw [natOfDigits?] at h
  split at h
  · next hds =>
    rw [Bool.and_eq_true, Bool.not_eq_true', List.isEmpty_eq_false_iff] at hds
    cases h
    exact ⟨hds.1, hds.2, rfl⟩
  · cases h

theorem isAsciiDigit_of_number {ds : List Char} {n : Nat} (h : natOfDigits? ds = some n) :
    ∀ d ∈ ds, isAsciiDigit d = true :=
  List.all_eq_true.mp (natOfDigits?_eq_some h).2.1

theorem oneByte_of_natOfDigits? {ds : List Char} {n : Nat} (h : natOfDigits? ds = some n) :
    OneByte ds := by
  intro d hd
  have hdigit := toNat_of_isAsciiDigit (isAsciiDigit_of_number h d hd)
  exact utf8Size_of_ascii (Nat.lt_of_le_of_lt hdigit.2 (by decide))

theorem isDecimalDigit_of_number {ds : List Char} {n : Nat} (h : natOfDigits? ds = some n) :
    ∀ d ∈ ds, isDecimalDigit d = true := fun d hd =>
  isDecimalDigit_of_isAsciiDigit (isAsciiDigit_of_number h d hd)

theorem isBlank_of_isAsciiDigit {c : Char} (h : isAsciiDigit c = true) : isBlank c = false := by
  have := toNat_of_isAsciiDigit h
  exact isBlank_eq_false (by omega)

theorem trimLeft_cons {c : Char} (cs : List Char) (h : isBlank c = false) :
    trimLeft (c :: cs) = c :: cs :=
  List.dropWhile_cons_of_neg (by simp [h])

theorem trimLeft_padded (width n : Nat) (rest : List Char) :
    trimLeft (padded width n ++ rest) = padded width n ++ rest := by
  obtain ⟨d, ds, hds, hd⟩ := exists_cons_padded width n
  rw [hds, List.cons_append]
  exact trimLeft_cons _ (isBlank_of_isAsciiDigit hd)

/-! ## Where a run of digits ends -/

/-- The text does not start with a decimal digit of any script. -/
def EndsRun (rest : List Char) : Prop := ∀ c ∈ rest.head?, isDecimalDigit c = false

theorem endsRun_nil : EndsRun [] := by
  intro c hc
  cases hc

theorem endsRun_cons {c : Char} {rest : List Char} (h : isDecimalDigit c = false) :
    EndsRun (c :: rest) := by
  intro d hd
  cases hd
  exact h

theorem endsRun_dash (cs : List Char) : EndsRun ('-' :: cs) :=
  endsRun_cons (isDecimalDigit_eq_false (by decide))

theorem endsRun_colon (cs : List Char) : EndsRun (':' :: cs) :=
  endsRun_cons (isDecimalDigit_eq_false (by decide))

theorem endsRun_timeMark (cs : List Char) : EndsRun ('T' :: cs) :=
  endsRun_cons (isDecimalDigit_eq_false (by decide))

theorem EndsRun.isAsciiDigit_eq_false {rest : List Char} (h : EndsRun rest) :
    ∀ c ∈ rest.head?, isAsciiDigit c = false := by
  intro c hc
  rw [← Bool.not_eq_true]
  intro hdigit
  have := h c hc
  rw [isDecimalDigit_of_isAsciiDigit hdigit] at this
  cases this

theorem EndsRun.take {rest : List Char} (h : EndsRun rest) (count : Nat) :
    EndsRun (rest.take count) := by
  cases rest with
  | nil => simpa using h
  | cons c rest =>
    cases count with
    | zero => exact endsRun_nil
    | succ count => exact endsRun_cons (h c rfl)

theorem EndsRun.takeWhile_eq_nil {rest : List Char} (h : EndsRun rest) :
    rest.takeWhile isAsciiDigit = [] := by
  cases rest with
  | nil => rfl
  | cons c rest => exact List.takeWhile_cons_of_neg (by simp [h.isAsciiDigit_eq_false c rfl])

theorem EndsRun.dropWhile_eq_self {rest : List Char} (h : EndsRun rest) :
    rest.dropWhile isAsciiDigit = rest := by
  cases rest with
  | nil => rfl
  | cons c rest => exact List.dropWhile_cons_of_neg (by simp [h.isAsciiDigit_eq_false c rfl])

/-- A run of digits is cut off again where it ends. -/
theorem EndsRun.cut {ds rest : List Char} (h : EndsRun rest)
    (hds : ∀ d ∈ ds, isDecimalDigit d = true) :
    (ds ++ rest).takeWhile isDecimalDigit = ds ∧ (ds ++ rest).dropWhile isDecimalDigit = rest := by
  rw [List.takeWhile_append_of_pos hds, List.dropWhile_append_of_pos hds]
  cases rest with
  | nil => exact ⟨List.append_nil ds, rfl⟩
  | cons c rest =>
    have hc : ¬ isDecimalDigit c = true := by simp [h c rfl]
    rw [List.takeWhile_cons_of_neg hc, List.dropWhile_cons_of_neg hc, List.append_nil]
    exact ⟨rfl, rfl⟩

/-! ## Runs in a numeric date -/

theorem takeDigits_of_endsRun {rest : List Char} (most : Nat) (h : EndsRun rest) :
    takeDigits most rest = ([], rest) := by
  cases most with
  | zero => cases rest <;> rfl
  | succ most =>
    cases rest with
    | nil => rfl
    | cons c rest => simp [takeDigits, h c rfl]

/-- A run of digits of any script is taken whole, if it is not too long. -/
theorem takeDigits_decimal {most : Nat} {ds rest : List Char}
    (hds : ∀ d ∈ ds, isDecimalDigit d = true) (hlength : ds.length ≤ most) (hrest : EndsRun rest) :
    takeDigits most (ds ++ rest) = (ds, rest) := by
  induction ds generalizing most with
  | nil => exact takeDigits_of_endsRun most hrest
  | cons d ds ih =>
    obtain ⟨hd, hds⟩ := List.forall_mem_cons.mp hds
    cases most with
    | zero => simp at hlength
    | succ most =>
      have hfront := ih hds (Nat.le_of_succ_le_succ hlength)
      rw [List.cons_append, takeDigits, if_pos hd, hfront]

theorem takeDigits_run {most : Nat} {ds rest : List Char} (hds : ds.all isAsciiDigit = true)
    (hlength : ds.length ≤ most) (hrest : EndsRun rest) :
    takeDigits most (ds ++ rest) = (ds, rest) :=
  takeDigits_decimal (fun d hd => isDecimalDigit_of_isAsciiDigit (List.all_eq_true.mp hds d hd))
    hlength hrest

theorem digitField?_padded {least most width n : Nat} {rest : List Char} (hwidth : 0 < width)
    (hleast : least ≤ width) (hmost : width ≤ most) (hn : n < tenTo width) (hrest : EndsRun rest) :
    digitField? least most (padded width n ++ rest) = some (padded width n, rest) := by
  have hlength := length_padded hwidth hn
  rw [digitField?, takeDigits_run (all_isAsciiDigit_padded width n) (by omega) hrest]
  simp [hlength, hleast]

/-- The case of two digits: months, days, hours, minutes and seconds. -/
theorem digitField?_two {least most n : Nat} {rest : List Char} (hleast : least ≤ 2)
    (hmost : 2 ≤ most) (hn : n < 100) (hrest : EndsRun rest) :
    digitField? least most (padded 2 n ++ rest) = some (padded 2 n, rest) :=
  digitField?_padded (by decide) hleast hmost hn hrest

theorem digitField?_of_endsRun {least most : Nat} {cs : List Char} (hleast : 0 < least)
    (h : EndsRun cs) : digitField? least most cs = none := by
  rw [digitField?, takeDigits_of_endsRun most h]
  exact if_neg (Nat.not_le_of_lt hleast)

/-! ## Runs in the other forms -/

theorem takeWhile_run {ds rest : List Char} (hds : ds.all isAsciiDigit = true)
    (hrest : EndsRun rest) : (ds ++ rest).takeWhile isAsciiDigit = ds := by
  rw [List.takeWhile_append_of_pos (List.all_eq_true.mp hds), hrest.takeWhile_eq_nil,
    List.append_nil]

theorem leadingDigits_isPrefix (most : Nat) (cs : List Char) : leadingDigits most cs <+: cs :=
  (List.takeWhile_prefix _).trans (List.take_prefix _ _)

theorem leadingDigits_run {most : Nat} {ds rest : List Char} (hds : ds.all isAsciiDigit = true)
    (hlength : ds.length ≤ most) (hrest : EndsRun rest) : leadingDigits most (ds ++ rest) = ds := by
  rw [leadingDigits, List.take_append, List.take_of_length_le hlength]
  exact takeWhile_run hds (hrest.take _)

theorem scanNumber?_of_number {least most n : Nat} {ds rest : List Char}
    (number : natOfDigits? ds = some n) (hleast : least ≤ ds.length) (hmost : ds.length ≤ most)
    (hrest : EndsRun rest) : scanNumber? least most (ds ++ rest) = some (n, rest) := by
  rw [scanNumber?, leadingDigits_run (natOfDigits?_eq_some number).2.1 hmost hrest]
  simp [hleast, number]

theorem scanNumber?_padded {least most width n : Nat} {rest : List Char} (hwidth : 0 < width)
    (hleast : least ≤ width) (hmost : width ≤ most) (hn : n < tenTo width) (hrest : EndsRun rest) :
    scanNumber? least most (padded width n ++ rest) = some (n, rest) := by
  have hlength := length_padded hwidth hn
  exact scanNumber?_of_number (natOfDigits?_padded width n) (by omega) (by omega) hrest

/-- The case of two digits: months, days, hours, minutes and seconds. -/
theorem scanNumber?_two {least n : Nat} {rest : List Char} (hleast : least ≤ 2) (hn : n < 100)
    (hrest : EndsRun rest) : scanNumber? least 2 (padded 2 n ++ rest) = some (n, rest) :=
  scanNumber?_padded (by decide) hleast (Nat.le_refl 2) hn hrest

theorem scanNumber?_of_endsRun {least most : Nat} {cs : List Char} (hleast : 0 < least)
    (h : EndsRun cs) : scanNumber? least most cs = none := by
  rw [scanNumber?, leadingDigits, (h.take most).takeWhile_eq_nil]
  exact if_neg (Nat.not_le_of_lt hleast)

theorem scanNumber?_eq_some {least most n : Nat} {cs rest : List Char}
    (h : scanNumber? least most cs = some (n, rest)) :
    ∃ ds, cs = ds ++ rest ∧ natOfDigits? ds = some n ∧ least ≤ ds.length ∧ ds.length ≤ most := by
  have hlength : (leadingDigits most cs).length ≤ most :=
    Nat.le_trans (List.takeWhile_prefix _).length_le (List.length_take_le most cs)
  rw [scanNumber?] at h
  split at h
  · next hleast =>
    obtain ⟨n', hn, heq⟩ := Option.map_eq_some_iff.mp h
    cases heq
    exact ⟨_, (List.prefix_iff_eq_append.mp (leadingDigits_isPrefix most cs)).symm, hn, hleast, hlength⟩
  · cases h

theorem eq_drop_of_scanNumber? {least most n : Nat} {cs rest : List Char}
    (h : scanNumber? least most cs = some (n, rest)) : ∃ k ≤ most, rest = cs.drop k := by
  obtain ⟨ds, rfl, -, -, hlength⟩ := scanNumber?_eq_some h
  exact ⟨ds.length, hlength, List.drop_left.symm⟩

theorem scanUnbounded?_padded {width n : Nat} {rest : List Char} (hrest : EndsRun rest) :
    scanUnbounded? (padded width n ++ rest) = some (n, rest) := by
  rw [scanUnbounded?, takeWhile_run (all_isAsciiDigit_padded width n) hrest]
  simp [natOfDigits?_padded]

theorem scanNanos?_padded {width n : Nat} {rest : List Char} (hwidth : 0 < width)
    (hmost : width ≤ 9) (hn : n < tenTo width) (hrest : EndsRun rest) :
    scanNanos? (padded width n ++ rest) = some (n * tenTo (9 - width), rest) := by
  have hlength := length_padded hwidth hn
  rw [scanNanos?, leadingDigits_run (all_isAsciiDigit_padded width n) (by omega) hrest]
  simp [hlength, natOfDigits?_padded, hrest.dropWhile_eq_self]

end RecordSieve.Calendar
