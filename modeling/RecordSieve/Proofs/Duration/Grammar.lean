/-
RecordSieve.Proofs.Duration.Grammar — the texts that are durations.

The forms of a duration are written down here as a grammar that says of a
text how many nanoseconds it stands for: the designator form
(`DesignatorText`), and what may follow a minus sign, a time that has
passed or a number of days (`PassedText`).  The numbers of a text are
those that `natOfDigits?` reads, of any length; a field that is cut out
of a text has a value if its number has 63 bits.
-/
import RecordSieve.Proofs.Calendar.DigitRun
import RecordSieve.Proofs.Duration.Sum

namespace RecordSieve.Duration

open RecordSieve.Text RecordSieve.Decimal RecordSieve.Calendar

/-! ## The grammar -/

/-- A component of the designator form, which is not written or is a
number with one of its marks. -/
inductive ComponentText (marks : List Char) : List Char → Option Nat → Prop
  | absent : ComponentText marks [] none
  | present {ds : List Char} {n : Nat} {mark : Char} (number : natOfDigits? ds = some n)
      (isMark : mark ∈ marks) : ComponentText marks (ds ++ [mark]) (some n)

/-- What follows the days in the designator form, and its hours, minutes
and seconds: if there is a T, at least one component comes after it. -/
inductive TimeText : List Char → Nat → Nat → Nat → Prop
  | absent : TimeText [] 0 0 0
  | present {mark : Char} {hs ms ss : List Char} {h m s : Option Nat} (isMark : mark ∈ ['T', 't'])
      (hours : ComponentText ['H', 'h'] hs h) (minutes : ComponentText ['M', 'm'] ms m)
      (seconds : ComponentText ['S', 's'] ss s) (written : hs ++ ms ++ ss ≠ []) :
      TimeText (mark :: (hs ++ ms ++ ss)) (h.getD 0) (m.getD 0) (s.getD 0)

/-- The designator form, with at least one component, and its nanoseconds. -/
inductive DesignatorText : List Char → Nat → Prop
  | intro {mark : Char} {ds ts : List Char} {d : Option Nat} {h m s : Nat}
      (isMark : mark ∈ ['P', 'p']) (days : ComponentText ['D', 'd'] ds d) (time : TimeText ts h m s)
      (written : ds ++ ts ≠ []) :
      DesignatorText (mark :: (ds ++ ts)) (totalNanos (d.getD 0) h m s 0)

/-- Optional days with a point after them. -/
inductive DaysText : List Char → Nat → Prop
  | absent : DaysText [] 0
  | present {ds : List Char} {n : Nat} (number : natOfDigits? ds = some n) :
      DaysText (ds ++ ['.']) n

/-- A number of one or two digits that is not more than `most`. -/
structure ClockField (most : Nat) (ds : List Char) (n : Nat) : Prop where
  number : natOfDigits? ds = some n
  short : ds.length ≤ 2
  le : n ≤ most

/-- An optional fraction of up to seven digits after a point, or after a
comma where `comma` allows it, and its nanoseconds. -/
inductive FractionText (comma : Bool) : List Char → Nat → Prop
  | absent : FractionText comma [] 0
  | present {mark : Char} {ds : List Char} {n : Nat}
      (isMark : mark = '.' ∨ comma = true ∧ mark = ',') (number : natOfDigits? ds = some n)
      (short : ds.length ≤ 7) : FractionText comma (mark :: ds) (n * tenTo (9 - ds.length))

/-- Optional seconds after a colon, with a fraction, and their seconds
and nanoseconds. -/
inductive SecondsText (comma : Bool) : List Char → Nat → Nat → Prop
  | absent : SecondsText comma [] 0 0
  | present {ss fs : List Char} {s nanos : Nat} (seconds : ClockField 59 ss s)
      (fraction : FractionText comma fs nanos) : SecondsText comma (':' :: (ss ++ fs)) s nanos

/-- A time that has passed, or a number of days, and its nanoseconds. -/
inductive PassedText (comma : Bool) : List Char → Nat → Prop
  | clock {ds hs ms ss : List Char} {d h m s nanos : Nat} (days : DaysText ds d)
      (hours : ClockField 23 hs h) (minutes : ClockField 59 ms m)
      (seconds : SecondsText comma ss s nanos) :
      PassedText comma (ds ++ (hs ++ ':' :: (ms ++ ss))) (totalNanos d h m s nanos)
  | days {ds : List Char} {n : Nat} (number : natOfDigits? ds = some n) :
      PassedText comma ds (totalNanos n 0 0 0 0)

/-- The text of a duration: its sign, and its nanoseconds. -/
inductive Written (comma : Bool) : List Char → Bool → Nat → Prop
  | designators {cs : List Char} {n : Nat} (form : DesignatorText cs n) : Written comma cs false n
  | plain {cs : List Char} {n : Nat} (form : PassedText comma cs n) : Written comma cs false n
  | minus {cs : List Char} {n : Nat} (form : PassedText comma cs n) :
      Written comma ('-' :: cs) true n

/-! ## Numbers -/

theorem fieldValue?_eq_some {ds : List Char} {i : Int} (h : fieldValue? ds = some i) :
    ∃ n : Nat, natOfDigits? ds = some n ∧ i = n := by
  obtain ⟨h, -⟩ := Option.filter_eq_some_iff.mp h
  obtain ⟨n, hn, rfl⟩ := Option.map_eq_some_iff.mp h
  exact ⟨n, hn, rfl⟩

theorem fieldValue?_of_le {ds : List Char} {n : Nat} (h : natOfDigits? ds = some n)
    (hn : n ≤ 9223372036854775807) : fieldValue? ds = some (n : Int) := by
  have hfits : fitsInt64 (n : Int) = true := by
    rw [fitsInt64, Bool.and_eq_true, decide_eq_true_eq, decide_eq_true_eq, int64Min, int64Max]
    omega
  rw [fieldValue?, h, Option.map_some]
  exact Option.filter_some_pos hfits

/-- The digits of a number are cut off again before a character that is no digit. -/
theorem cut_of_number {ds : List Char} {n : Nat} {c : Char} (rest : List Char)
    (number : natOfDigits? ds = some n) (hc : isDecimalDigit c = false) :
    (ds ++ c :: rest).takeWhile isDecimalDigit = ds ∧
      (ds ++ c :: rest).dropWhile isDecimalDigit = c :: rest :=
  (endsRun_cons hc).cut (isDecimalDigit_of_number number)

/-- A field and its number, both absent or both there. -/
def Spells (field : Option (List Char)) (n : Option Nat) : Prop :=
  field.map natOfDigits? = n.map some

theorem spells_none {n : Option Nat} : Spells none n ↔ n = none := by
  cases n <;> simp [Spells]

theorem spells_some {ds : List Char} {n : Option Nat} :
    Spells (some ds) n ↔ ∃ k, n = some k ∧ natOfDigits? ds = some k := by
  cases n <;> simp [Spells]

theorem Spells.isSome_eq {field : Option (List Char)} {n : Option Nat} (h : Spells field n) :
    field.isSome = n.isSome := by
  simpa using congrArg Option.isSome h

theorem componentValue_of_spells {field : Option (List Char)} {n : Option Nat}
    (h : Spells field n) (hn : n.getD 0 ≤ 9223372036854775807) :
    componentValue field = .ok (n.getD 0 : Nat) := by
  cases field with
  | none =>
    rw [spells_none.mp h]
    rfl
  | some ds =>
    obtain ⟨k, rfl, hk⟩ := spells_some.mp h
    rw [componentValue, fieldValue?_of_le hk hn]
    rfl

theorem spells_of_componentValue {field : Option (List Char)} {i : Int}
    (h : componentValue field = .ok i) : ∃ n, Spells field n ∧ i = (n.getD 0 : Nat) := by
  cases field with
  | none =>
    cases h
    exact ⟨none, rfl, rfl⟩
  | some ds =>
    rw [componentValue] at h
    split at h
    · next j hj =>
      cases h
      obtain ⟨k, hk, rfl⟩ := fieldValue?_eq_some hj
      exact ⟨some k, spells_some.mpr ⟨k, rfl, hk⟩, rfl⟩
    · cases h

end RecordSieve.Duration
