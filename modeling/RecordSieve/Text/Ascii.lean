/-
RecordSieve.Text.Ascii — comparison of names without regard to the case
of ASCII letters.

Names of operators, types, locales and zones are ASCII words; a
character beyond ASCII is only ever equal to itself here.
-/

namespace RecordSieve.Text

/-- The text with ASCII capitals made small; other characters stay. -/
def lowerAscii (cs : List Char) : List Char := cs.map Char.toLower

/-- The text with ASCII small letters made capital; other characters stay. -/
def upperAscii (cs : List Char) : List Char := cs.map Char.toUpper

/-- Equality up to the case of ASCII letters. -/
def equalIgnoringCase (a b : List Char) : Bool := lowerAscii a == lowerAscii b

/-- Equality of two names up to the case of ASCII letters. -/
def sameName (a b : String) : Bool := equalIgnoringCase a.toList b.toList

/-- Drops `word` from the front of the text, in any ASCII case. -/
def dropWord? (word : List Char) : List Char → Option (List Char) := fun cs =>
  if equalIgnoringCase (cs.take word.length) word then some (cs.drop word.length) else none

theorem equalIgnoringCase_refl (a : List Char) : equalIgnoringCase a a = true := by
  simp [equalIgnoringCase]

end RecordSieve.Text
