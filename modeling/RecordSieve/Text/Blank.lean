/-
RecordSieve.Text.Blank — white space and trimming.

The blanks are the 25 characters with the property White_Space.  Every
reader of dates, durations, numbers and truth values trims them from
both ends first.
-/
import RecordSieve.Text.CodeRange

namespace RecordSieve.Text

/-- The characters with the property White_Space, as closed ranges,
ascending and apart. -/
def blankRanges : List (Nat × Nat) := [
  (0x09, 0x0D), (0x20, 0x20), (0x85, 0x85), (0xA0, 0xA0), (0x1680, 0x1680), (0x2000, 0x200A),
  (0x2028, 0x2029), (0x202F, 0x202F), (0x205F, 0x205F), (0x3000, 0x3000)]

/-- Whether `c` is white space. -/
def isBlank (c : Char) : Bool := inRanges blankRanges c.toNat

/-- The text without its leading blanks. -/
def trimLeft (cs : List Char) : List Char := cs.dropWhile isBlank

/-- The text without its trailing blanks. -/
def trimRight (cs : List Char) : List Char := (cs.reverse.dropWhile isBlank).reverse

/-- The text without the blanks at either end. -/
def trim (cs : List Char) : List Char := trimRight (trimLeft cs)

/-- Whether the text holds nothing but blanks. -/
def isAllBlank (cs : List Char) : Bool := cs.all isBlank

@[simp] theorem trimLeft_nil : trimLeft [] = [] := rfl

@[simp] theorem trim_nil : trim [] = [] := rfl

end RecordSieve.Text
