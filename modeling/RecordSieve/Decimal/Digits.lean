/-
RecordSieve.Decimal.Digits — whole numbers as ASCII decimal digits.

`digits` writes a number and `natOfDigits?` reads one; the two are
inverse (`natOfDigits?_digits`).  Only ASCII digits have a value here,
whatever other digits a pattern may have recognised.
-/

namespace RecordSieve.Decimal

/-- Whether `c` is one of `0` … `9`. -/
def isAsciiDigit (c : Char) : Bool := '0' ≤ c && c ≤ '9'

/-- The ASCII digit for a number below ten. -/
def digitChar (n : Nat) : Char := Char.ofNat (48 + n % 10)

/-- The value of an ASCII digit. -/
def digitValue (c : Char) : Nat := c.toNat - 48

/-- The digits read from left to right, after a number already read. -/
def appendDigits (start : Nat) (cs : List Char) : Nat :=
  cs.foldl (fun n c => 10 * n + digitValue c) start

/-- The value of a text of one or more ASCII digits. -/
def natOfDigits? (cs : List Char) : Option Nat :=
  if !cs.isEmpty && cs.all isAsciiDigit then some (appendDigits 0 cs) else none

/-- A number in decimal, without leading zeros. -/
def digits (n : Nat) : List Char :=
  if n < 10 then [digitChar n] else digits (n / 10) ++ [digitChar (n % 10)]

/-- The number written with at least `width` digits. -/
def padded (width n : Nat) : List Char :=
  let ds := digits n
  List.replicate (width - ds.length) '0' ++ ds

/-- A whole number in decimal, with a minus sign if it is negative. -/
def ofInt (i : Int) : List Char :=
  if i < 0 then '-' :: digits i.natAbs else digits i.natAbs

/-- A whole number in decimal, as a string. -/
def intText (i : Int) : String := String.ofList (ofInt i)

/-- A natural number in decimal, as a string. -/
def natText (n : Nat) : String := String.ofList (digits n)

/-- An optional sign: whether it is a minus sign, and what follows. -/
def splitSign : List Char → Bool × List Char
  | '-' :: cs => (true, cs)
  | '+' :: cs => (false, cs)
  | cs => (false, cs)

/-- The whole number of an optional sign followed by ASCII digits. -/
def intOfText? (cs : List Char) : Option Int :=
  let (negative, ds) := splitSign cs
  (natOfDigits? ds).map fun n => if negative then -(n : Int) else n

/-- The range of signed 64-bit integers. -/
def int64Min : Int := -9223372036854775808
def int64Max : Int := 9223372036854775807

/-- Whether `i` is a signed 64-bit integer. -/
def fitsInt64 (i : Int) : Bool := int64Min ≤ i && i ≤ int64Max

/-- The signed 64-bit integer of an optional sign followed by ASCII digits. -/
def int64OfText? (cs : List Char) : Option Int := (intOfText? cs).filter fitsInt64

theorem isAsciiDigit_digitChar (n : Nat) : isAsciiDigit (digitChar n) = true := by
  have h : n % 10 < 10 := Nat.mod_lt _ (by decide)
  unfold digitChar
  generalize n % 10 = d at h
  match d, h with
  | 0, _ | 1, _ | 2, _ | 3, _ | 4, _ | 5, _ | 6, _ | 7, _ | 8, _ | 9, _ => decide

theorem digitValue_digitChar (n : Nat) : digitValue (digitChar n) = n % 10 := by
  have h : n % 10 < 10 := Nat.mod_lt _ (by decide)
  unfold digitChar
  generalize n % 10 = d at h
  match d, h with
  | 0, _ | 1, _ | 2, _ | 3, _ | 4, _ | 5, _ | 6, _ | 7, _ | 8, _ | 9, _ => decide

theorem digits_ne_nil (n : Nat) : digits n ≠ [] := by
  rw [digits]
  split <;> simp

theorem all_isAsciiDigit_digits (n : Nat) : (digits n).all isAsciiDigit = true := by
  fun_induction digits n with
  | case1 n h => simp [isAsciiDigit_digitChar]
  | case2 n h ih => simp [isAsciiDigit_digitChar, ih]

theorem appendDigits_append (start : Nat) (as bs : List Char) :
    appendDigits start (as ++ bs) = appendDigits (appendDigits start as) bs := by
  simp [appendDigits]

theorem appendDigits_digits (n : Nat) : appendDigits 0 (digits n) = n := by
  fun_induction digits n with
  | case1 n h => simp [appendDigits, digitValue_digitChar]; omega
  | case2 n h ih =>
    rw [appendDigits_append, ih]
    simp [appendDigits, digitValue_digitChar]
    omega

/-- Reading back what was written gives the number. -/
theorem natOfDigits?_digits (n : Nat) : natOfDigits? (digits n) = some n := by
  simp only [natOfDigits?, all_isAsciiDigit_digits, appendDigits_digits]
  simp [digits_ne_nil]

end RecordSieve.Decimal
