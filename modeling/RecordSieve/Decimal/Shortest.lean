/-
RecordSieve.Decimal.Shortest — the shortest decimal that reads back as a
given double.

A double stands for the interval of reals that round to it.  Decimals of
1, 2, … 17 digits are tried: on each grid only the value's two
neighbours can lie in the interval, and the first grid with a hit wins.
Of two neighbours the nearer wins, and a tie goes as the caller says.
All comparisons are of whole numbers.
-/
import RecordSieve.Decimal.Binary64

namespace RecordSieve.Decimal

/-- The decimal `significand · 10 ^ exponent`. -/
structure Scaled where
  significand : Nat
  exponent : Int
  deriving DecidableEq

namespace Scaled

/-- The same decimal with at most `fuel` trailing zeros of the
significand moved into the exponent. -/
def dropZeros : Nat → Scaled → Scaled
  | 0, d => d
  | fuel + 1, d =>
    if d.significand ≠ 0 ∧ d.significand % 10 = 0 then
      dropZeros fuel ⟨d.significand / 10, d.exponent + 1⟩
    else d

end Scaled

/-- Which of two whole numbers stands for the value halfway between them. -/
inductive TieBreak where
  | toEven
  | up
  deriving DecidableEq

/-- Whether a value rounds to `q + 1` and not to `q`, when `rest` is how
its distance from `q` compares with one half. -/
def TieBreak.roundsUp (tie : TieBreak) (q : Nat) : Ordering → Bool
  | .lt => false
  | .gt => true
  | .eq => match tie with
    | .toEven => q % 2 == 1
    | .up => true

namespace Shortest

/-- The interval of reals that round to a double, as numerators over
`4 · unitsPerOne`; the ends belong to it when `closed`. -/
structure Interval where
  lower : Nat
  value : Nat
  upper : Nat
  closed : Bool

/-- The common denominator of an interval's numerators. -/
def scale : Nat := 4 * unitsPerOne

/-- The interval of a magnitude.  The gap below a power of two is half
the gap above it, except at the smallest numbers. -/
def interval (magnitude : Nat) : Interval :=
  let s := magnitude.log2 - 52
  let m := magnitude / twoTo s
  let below := if m = twoTo 52 && s ≠ 0 then twoTo s else 2 * twoTo s
  ⟨4 * magnitude - below, 4 * magnitude, 4 * magnitude + 2 * twoTo s, m % 2 == 0⟩

/-- `n` times ten to the `e`, as numerator and denominator. -/
def timesPowerOfTen (n : Nat) (e : Int) : Nat × Nat :=
  if 0 ≤ e then (n * tenTo e.toNat, 1) else (n, tenTo (-e).toNat)

/-- Whether `n · 10 ^ e` lies in the interval. -/
def Interval.holds (i : Interval) (n : Nat) (e : Int) : Bool :=
  let (num, den) := timesPowerOfTen n e
  let x := num * scale
  if i.closed then i.lower * den ≤ x && x ≤ i.upper * den
  else i.lower * den < x && x < i.upper * den

/-- The whole part of the value divided by ten to the `e`, and how the
rest compares with one half. -/
def Interval.onGrid (i : Interval) (e : Int) : Nat × Ordering :=
  let (num, den) := timesPowerOfTen i.value (-e)
  let d := den * scale
  (num / d, compare (2 * (num % d)) d)

/-- The exponent of the leading decimal digit of a magnitude. -/
def leadingExponent (i : Interval) : Int :=
  let estimate : Int := ((i.value.log2 : Int) - 1076) * 30103 / 100000
  let reaches (e : Int) : Bool := 1 ≤ (i.onGrid e).1
  if reaches (estimate + 1) then estimate + 1
  else if reaches estimate then estimate
  else estimate - 1

/-- The value's neighbour on the grid of ten to the `e` that lies in the
interval, the nearer one if both do. -/
def Interval.hit? (i : Interval) (tie : TieBreak) (e : Int) : Option Nat :=
  let (q, rest) := i.onGrid e
  match i.holds q e, i.holds (q + 1) e with
  | true, true => some (if tie.roundsUp q rest then q + 1 else q)
  | true, false => some q
  | false, true => some (q + 1)
  | false, false => none

end Shortest

open Shortest in
/-- The shortest decimal that rounds to the magnitude of `x`, and the
nearest to it among those. -/
def Binary64.shortest (x : Binary64) (tie : TieBreak) : Scaled :=
  if x.magnitude = 0 then ⟨0, 0⟩
  else
    let i := interval x.magnitude
    let top := leadingExponent i
    let found := (List.range 17).findSome? fun (k : Nat) =>
      (i.hit? tie (top - k)).map fun n => (⟨n, top - k⟩ : Scaled)
    (found.getD ⟨(i.onGrid (top - 16)).1, top - 16⟩).dropZeros 20

end RecordSieve.Decimal
