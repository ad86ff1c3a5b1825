/-
RecordSieve.Json.Numeral — reading a JSON number.

Digits are collected into a significand of at most 64 bits.  Whole
digits that no longer fit raise the exponent by one each, fractional
ones are dropped; the significand is then converted to a double and
scaled by one power of ten.  The two roundings are part of the format:
the result can differ from the nearest double in the last place.
-/
import RecordSieve.Decimal.Literal
import RecordSieve.Json.Basic

namespace RecordSieve.Json.Numeral

open RecordSieve.Decimal

/-- The largest significand, of 64 bits. -/
def significandMax : Nat := 18446744073709551615

/-- Reads digits into a significand for as long as it stays within
`significandMax`: the significand, how many digits it took, and the rest. -/
def absorb (significand : Nat) : List Char → Nat × Nat × List Char
  | [] => (significand, 0, [])
  | c :: cs =>
    let next := 10 * significand + digitValue c
    if isAsciiDigit c && next ≤ significandMax then
      let (s, taken, rest) := absorb next cs
      (s, taken + 1, rest)
    else (significand, 0, c :: cs)

/-- The power of ten as a double, for exponents up to 308. -/
def powerOfTen (e : Nat) : Binary64 := (Binary64.ofDecimal false 1 e).getD .zero

/-- Scales a double by a power of ten.  An exponent below −308 is taken
in steps of 308; a significand of 64 bits is zero after two of them. -/
def scale : Nat → Binary64 → Int → Option Binary64
  | steps, x, e =>
    if 0 ≤ e && e ≤ 308 then x.mul? (powerOfTen e.toNat)
    else if e < 0 && -308 ≤ e then x.div? (powerOfTen (-e).toNat)
    else if x.isZero then some x
    else if 0 ≤ e then none
    else
      match steps with
      | 0 => some (.signedZero x.negative)
      | steps + 1 => (x.div? (powerOfTen 308)).bind fun y => scale steps y (e + 308)

/-- The double of a significand and a power of ten; none if it is infinite. -/
def toDouble (negative : Bool) (significand : Nat) (exponent : Int) : Option Binary64 :=
  (Binary64.ofRatio negative significand 1).bind fun x => scale 3 x exponent

/-- An optional exponent part: its value, whether it is there, and the rest. -/
def exponentPart? : List Char → Option (Int × Bool × List Char)
  | [] => some (0, false, [])
  | c :: cs =>
    if c == 'e' || c == 'E' then
      let (negative, ds) := splitSign cs
      (natOfDigits? (ds.takeWhile isAsciiDigit)).map fun n =>
        (if negative then -(n : Int) else n, true, ds.dropWhile isAsciiDigit)
    else some (0, false, c :: cs)

/-- An optional fraction after a significand: the new significand, the
number of digits it took, whether the fraction is there, and the rest. -/
def fractionPart? (significand : Nat) : List Char → Option (Nat × Nat × Bool × List Char)
  | '.' :: cs =>
    if (cs.takeWhile isAsciiDigit).isEmpty then none
    else
      let (s, taken, rest) := absorb significand cs
      some (s, taken, true, rest.dropWhile isAsciiDigit)
  | cs => some (significand, 0, false, cs)

/-- The number of a significand that has neither fraction nor exponent:
an integer if it fits, and a double otherwise and for minus zero. -/
def wholeNumber (negative : Bool) (significand : Nat) : Option JsonNumber :=
  let i : Int := if negative then -(significand : Int) else significand
  if negative && significand == 0 then some (.double (.signedZero true))
  else if h : JsonInteger i then some (.integer i h)
  else (Binary64.ofRatio negative significand 1).map .double

/-- Reads an unsigned number: a whole part without leading zeros, an
optional fraction and an optional exponent. -/
def unsigned? (negative : Bool) (cs : List Char) : Option (JsonNumber × List Char) := do
  let whole := cs.takeWhile isAsciiDigit
  if whole.isEmpty || (whole.head? == some '0' && whole.length > 1) then none
  else
    let (significand, _, surplus) := absorb 0 cs
    let dropped := (surplus.takeWhile isAsciiDigit).length
    let (significand, places, hasFraction, rest) ←
      fractionPart? significand (surplus.dropWhile isAsciiDigit)
    let (exponent, hasExponent, rest) ← exponentPart? rest
    let n ←
      if dropped == 0 && !hasFraction && !hasExponent then wholeNumber negative significand
      else
        (toDouble negative significand (dropped - places + exponent)).map .double
    return (n, rest)

/-- Reads a number, which may start with a minus sign. -/
def read? : List Char → Option (JsonNumber × List Char)
  | '-' :: cs => unsigned? true cs
  | cs => unsigned? false cs

end RecordSieve.Json.Numeral
