/-
RecordSieve.Locale — locale tags and the two conventions they decide:
the order of the fields of a numeric date, and the decimal separator.

The invariant locale is the empty tag.  The word `invariant`, in any
case, is another way to write it and is never a tag itself.
-/
import RecordSieve.Text.Ascii
import RecordSieve.Text.Segment
import RecordSieve.Text.Size

namespace RecordSieve

/-- The order of year, month and day in a numeric date. -/
inductive DateOrder where
  | monthDayYear
  | dayMonthYear
  | yearMonthDay
  deriving DecidableEq, Repr

/-- A locale: a language tag, or the empty tag for the invariant locale. -/
structure Locale where
  tag : String
  isTag : Text.sameName tag "invariant" = false

namespace Locale

@[ext] theorem ext {a b : Locale} (h : a.tag = b.tag) : a = b := by
  cases a; cases b; simp_all

instance : DecidableEq Locale := fun a b =>
  if h : a.tag = b.tag then isTrue (ext h) else isFalse fun hab => h (hab ▸ rfl)

/-- The locale that depends on no language. -/
def invariant : Locale := ⟨"", by decide +kernel⟩

/-- The locale of a tag. -/
def ofTag (tag : String) : Locale :=
  if h : Text.sameName tag "invariant" = false then ⟨tag, h⟩ else invariant

/-- Whether this is the invariant locale. -/
def isInvariant (l : Locale) : Bool := l.tag.isEmpty

/-- Whether `c` separates the parts of a tag. -/
def isSeparator (c : Char) : Bool := c == '-' || c == '_'

/-- The parts of the tag. -/
def parts (l : Locale) : List (List Char) := Text.splitWhere isSeparator l.tag.toList

/-- The language, in lower case. -/
def language (l : Locale) : String := String.ofList (Text.lowerAscii (l.parts.headD []))

/-- The region: the first part after the language that takes two bytes,
in capitals. -/
def region? (l : Locale) : Option String :=
  (l.parts.tail.find? fun part => Text.byteLength part == 2).map fun part =>
    String.ofList (Text.upperAscii part)

/-- Languages that write the year first. -/
def yearFirstLanguages : List String := ["ja", "zh", "ko", "hu", "lt", "sv", "mn"]

/-- Languages that write a point before decimals. -/
def pointLanguages : List String := ["en", "ja", "zh", "ko", "he", "th", "hi"]

/-- The order of the fields of a numeric date. -/
def dateOrder (l : Locale) : DateOrder :=
  if l.isInvariant then .monthDayYear
  else if l.language == "en" then
    match l.region? with
    | none => .monthDayYear
    | some region =>
      if region == "US" || region == "PH" then .monthDayYear else .dayMonthYear
  else if yearFirstLanguages.contains l.language then .yearMonthDay
  else .dayMonthYear

/-- Whether a comma separates decimals; otherwise a point does. -/
def decimalComma (l : Locale) : Bool := !l.isInvariant && !pointLanguages.contains l.language

/-- The character that separates decimals. -/
def decimalSeparator (l : Locale) : Char := if l.decimalComma then ',' else '.'

/-- The tag as shown to a reader. -/
def display (l : Locale) : String := if l.isInvariant then "invariant" else l.tag

end Locale

end RecordSieve
