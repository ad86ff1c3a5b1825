/-
RecordSieve.Text.Decomposition — canonical decomposition (normalisation
form D).

Each character is replaced by its full canonical decomposition, and the
marks that follow a character are then put into canonical order: marks
of different combining classes are sorted by class, marks of one class
keep their order.  Two texts are canonically equivalent exactly when
their decompositions are equal.
-/
import RecordSieve.Text.CombiningClass
import RecordSieve.Text.Decomposition.Table

namespace RecordSieve.Text

namespace Decomposition

/-- The first and last Hangul syllable. -/
def hangulFirst : Nat := 0xAC00
def hangulLast : Nat := 0xD7A3

/-- The jamo of the Hangul syllable with index `s`: a leading consonant,
a vowel and, unless its index is 0, a trailing consonant. -/
def jamo (s : Nat) : List Nat :=
  let leading := 0x1100 + s / 588
  let vowel := 0x1161 + s % 588 / 28
  let trailing := s % 28
  if trailing = 0 then [leading, vowel] else [leading, vowel, 0x11A7 + trailing]

/-- The row of a code point, if it has a decomposition in the table. -/
def row? (n : Nat) : Option (List Nat) := do
  let (_, _, page) ← pages.find? fun (first, last, _) => first ≤ n && n ≤ last
  page.lookup n

/-- The full canonical decomposition of one character. -/
def ofChar (c : Char) : List Char :=
  let n := c.toNat
  if n < 0xC0 then [c]
  else if hangulFirst ≤ n && n ≤ hangulLast then (jamo (n - hangulFirst)).map Char.ofNat
  else
    match row? n with
    | some codes => codes.map Char.ofNat
    | none => [c]

/-- Puts `c` in front of a text that is in canonical order, moving it
behind the marks of smaller class that it has to follow. -/
def place (c : Char) : List Char → List Char
  | [] => [c]
  | d :: ds =>
    if combiningClass d ≠ 0 && combiningClass d < combiningClass c then d :: place c ds
    else c :: d :: ds

/-- Sorts each run of marks by combining class, keeping the order of
marks of one class. -/
def reorder (cs : List Char) : List Char := cs.foldr place []

end Decomposition

/-- The canonical decomposition of a text. -/
def decompose (cs : List Char) : List Char := Decomposition.reorder (cs.flatMap Decomposition.ofChar)

@[simp] theorem decompose_nil : decompose [] = [] := rfl

end RecordSieve.Text
