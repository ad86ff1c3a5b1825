/-
RecordSieve.Decimal.Literal — reading a double from text, correctly
rounded.

The grammar is an optional sign and then either digits with an optional
point (a digit on one side is enough) and an optional exponent, or one
of the words `inf`, `infinity` and `nan` in any case.
-/
import RecordSieve.Decimal.Binary64
import RecordSieve.Decimal.Digits
import RecordSieve.Text.Ascii

namespace RecordSieve.Decimal

/-- What a numeric literal denotes. -/
inductive LiteralValue where
  | finite (x : Binary64)
  | infinite (negative : Bool)
  | notANumber

/-- The double nearest to `significand · 10 ^ exponent`; none if it is
infinite.  Exponents far outside the range of doubles are settled
without computing the power. -/
def Binary64.ofDecimal (negative : Bool) (significand : Nat) (exponent : Int) : Option Binary64 :=
  let leading := exponent + (digits significand).length
  if significand = 0 || leading < -400 then some (.signedZero negative)
  else if 400 < leading then none
  else if 0 ≤ exponent then ofRatio negative (significand * tenTo exponent.toNat) 1
  else ofRatio negative significand (tenTo (-exponent).toNat)

/-- The exponent part at the end of a literal: nothing, or `e` and a
whole number. -/
def exponentPart? : List Char → Option Int
  | [] => some 0
  | c :: cs => if c == 'e' || c == 'E' then intOfText? cs else none

/-- The significand and exponent of an unsigned literal. -/
def unsignedLiteral? (cs : List Char) : Option (Nat × Int) := do
  let whole := cs.takeWhile isAsciiDigit
  let rest := cs.dropWhile isAsciiDigit
  let (fraction, rest) :=
    match rest with
    | '.' :: cs => (cs.takeWhile isAsciiDigit, cs.dropWhile isAsciiDigit)
    | cs => ([], cs)
  let significand ← natOfDigits? (whole ++ fraction)
  let exponent ← exponentPart? rest
  return (significand, exponent - fraction.length)

/-- The value of a numeric literal. -/
def readLiteral? (cs : List Char) : Option LiteralValue :=
  let (negative, body) := splitSign cs
  if Text.equalIgnoringCase body "inf".toList || Text.equalIgnoringCase body "infinity".toList then
    some (.infinite negative)
  else if Text.equalIgnoringCase body "nan".toList then some .notANumber
  else
    (unsignedLiteral? body).map fun (significand, exponent) =>
      match Binary64.ofDecimal negative significand exponent with
      | some x => .finite x
      | none => .infinite negative

/-- The finite double that a text denotes. -/
def readFinite? (cs : List Char) : Option Binary64 :=
  match readLiteral? cs with
  | some (.finite x) => some x
  | _ => none

end RecordSieve.Decimal
