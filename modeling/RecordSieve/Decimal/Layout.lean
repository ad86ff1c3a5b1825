/-
RecordSieve.Decimal.Layout — writing a double.

The digits are the shortest that read back; a layout fixes where
positional notation ends, whether a whole number keeps `.0`, and which
of two equally near last digits is taken.
-/
import RecordSieve.Decimal.Digits
import RecordSieve.Decimal.Shortest

namespace RecordSieve.Decimal

/-- How a double is written. -/
structure Layout where
  /-- Whether a number whose leading digit has this exponent is written
  without an exponent part. -/
  positional : Int → Bool
  /-- Whether a whole number ends in `.0`. -/
  pointZero : Bool
  /-- The last digit of a number halfway between two shortest decimals. -/
  tie : TieBreak

namespace Layout

/-- Never with an exponent, whole numbers without a point, and the
larger of two equally near magnitudes. -/
def plain : Layout := ⟨fun _ => true, false, .up⟩

/-- Digits written positionally; `exponent` belongs to the last digit. -/
def positionalText (ds : List Char) (exponent : Int) (pointZero : Bool) : List Char :=
  if 0 ≤ exponent then
    ds ++ List.replicate exponent.toNat '0' ++ (if pointZero then ['.', '0'] else [])
  else
    let places := (-exponent).toNat
    if places < ds.length then
      ds.take (ds.length - places) ++ '.' :: ds.drop (ds.length - places)
    else '0' :: '.' :: List.replicate (places - ds.length) '0' ++ ds

/-- Digits with an exponent part; `leading` is the exponent of the first digit. -/
def exponentText (ds : List Char) (leading : Int) : List Char :=
  let mantissa :=
    match ds with
    | d :: e :: rest => d :: '.' :: e :: rest
    | ds => ds
  mantissa ++ 'e' :: (if leading < 0 then '-' else '+') :: digits leading.natAbs

/-- The text of a double. -/
def write (layout : Layout) (x : Binary64) : List Char :=
  let d := x.shortest layout.tie
  let ds := digits d.significand
  let leading := d.exponent + ds.length - 1
  let body :=
    if layout.positional leading then positionalText ds d.exponent layout.pointZero
    else exponentText ds leading
  if x.negative then '-' :: body else body

end Layout

end RecordSieve.Decimal
