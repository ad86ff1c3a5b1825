/-
RecordSieve.Collation — comparing and searching strings.

Order is decided by levels: the letters first, then (unless accents are
ignored) the accents, then (unless case is ignored) the case, small
before capital, and with no flag set the decomposed text itself.

Searching folds both texts under the flags and looks for one in the
other.  When accents count, a match must not be followed by a mark, which
would belong to the last character matched.
-/
import RecordSieve.Options
import RecordSieve.Text.Decomposition
import RecordSieve.Text.LetterCase
import RecordSieve.Text.Mark

namespace RecordSieve.Collation

open RecordSieve.Text

/-- The text without its combining marks. -/
def stripMarks (cs : List Char) : List Char := cs.filter fun c => !isMark c

/-- The letters of a text: decomposed, without marks, in lower case. -/
def letterKey (a : String) : List Char := lowercaseAll (stripMarks (decompose a.toList))

/-- The letters and accents of a text: decomposed, in lower case. -/
def accentKey (a : String) : List Char := lowercaseAll (decompose a.toList)

/-- Which characters of a text are capitals; marks do not take part when
accents are ignored. -/
def caseKey (flags : CompareFlags) (a : String) : List Bool :=
  let cs := decompose a.toList
  (if flags.ignoreAccents then stripMarks cs else cs).map isUppercase

/-- The order of two strings. -/
def order (flags : CompareFlags) (a b : String) : Ordering :=
  (compare (letterKey a) (letterKey b)).then <|
  (if flags.ignoreAccents then .eq else compare (accentKey a) (accentKey b)).then <|
  (if flags.ignoreCase then .eq else compare (caseKey flags a) (caseKey flags b)).then <|
  (if flags = {} then compare (decompose a.toList) (decompose b.toList) else .eq)

/-- Whether two strings are equal under the flags. -/
def equal (flags : CompareFlags) (a b : String) : Bool := order flags a b == .eq

/-- The form in which texts are searched. -/
def fold (flags : CompareFlags) (a : String) : List Char :=
  let cs := decompose a.toList
  let cs := if flags.ignoreAccents then stripMarks cs else cs
  if flags.ignoreCase then lowercaseAll cs else cs

/-- Whether a match may end before `rest`: the next character is not a
mark, or accents are ignored. -/
def endsCharacter (flags : CompareFlags) (rest : List Char) : Bool :=
  flags.ignoreAccents ||
    match rest with
    | [] => true
    | c :: _ => !isMark c

/-- Looks for `needle` from left to right, `skip` characters further on.
A match that may not end where it does is passed over as a whole, so
the matches tried do not overlap. -/
def search (flags : CompareFlags) (needle : List Char) : Nat → List Char → Bool
  | 0, [] => needle.isEmpty && endsCharacter flags []
  | _ + 1, [] => false
  | 0, c :: cs =>
    if needle.isPrefixOf (c :: cs) then
      endsCharacter flags ((c :: cs).drop needle.length) || search flags needle (needle.length - 1) cs
    else search flags needle 0 cs
  | skip + 1, _ :: cs => search flags needle skip cs

/-- Whether `b` occurs in `a`. -/
def contains (flags : CompareFlags) (a b : String) : Bool := search flags (fold flags b) 0 (fold flags a)

/-- Whether `a` starts with `b`. -/
def startsWith (flags : CompareFlags) (a b : String) : Bool :=
  let hay := fold flags a
  let needle := fold flags b
  needle.isPrefixOf hay && endsCharacter flags (hay.drop needle.length)

/-- Whether `a` ends with `b`. -/
def endsWith (flags : CompareFlags) (a b : String) : Bool :=
  (fold flags b).isSuffixOf (fold flags a)

theorem equal_eq_true_iff {flags : CompareFlags} {a b : String} :
    equal flags a b = true ↔ order flags a b = .eq := by
  simp [equal]

end RecordSieve.Collation
