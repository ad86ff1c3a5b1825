/-
RecordSieve.Text.Segment — cutting a text at separators.

`splitWhere` keeps empty pieces; `segments` drops them, which is how a
dotted field path is read.
-/

namespace RecordSieve.Text

/-- The pieces of a text between the characters that satisfy `isSep`;
there is always at least one. -/
def splitWhere (isSep : Char → Bool) : List Char → List (List Char)
  | [] => [[]]
  | c :: cs =>
    if isSep c then [] :: splitWhere isSep cs
    else
      match splitWhere isSep cs with
      | [] => [[c]]
      | piece :: pieces => (c :: piece) :: pieces

/-- The non-empty pieces of a text between the characters that satisfy `isSep`. -/
def segments (isSep : Char → Bool) (cs : List Char) : List (List Char) :=
  (splitWhere isSep cs).filter (!·.isEmpty)

end RecordSieve.Text
