/-
RecordSieve.Text.Line — the lines of a text.

A line ends at a line feed, or at a carriage return and a line feed; the
last line may end with the text.  A carriage return anywhere else is a
character like any other.
-/

namespace RecordSieve.Text

/-- The lines of a text, without their ends. -/
def lines : List Char → List (List Char)
  | [] => []
  | '\n' :: cs => [] :: lines cs
  | '\r' :: '\n' :: cs => [] :: lines cs
  | c :: cs =>
    match lines cs with
    | [] => [[c]]
    | line :: rest => (c :: line) :: rest

@[simp] theorem lines_nil : lines [] = [] := rfl

@[simp] theorem lines_newline (cs : List Char) : lines ('\n' :: cs) = [] :: lines cs := by
  rw [lines]

@[simp] theorem lines_return_newline (cs : List Char) :
    lines ('\r' :: '\n' :: cs) = [] :: lines cs := by
  rw [lines]

/-- A text without line feeds and without a final carriage return is one
line up to a line feed. -/
theorem lines_append_newline {line : List Char} (hfeed : '\n' ∉ line) (hreturn : '\r' ∉ line)
    (cs : List Char) : lines (line ++ '\n' :: cs) = line :: lines cs := by
  induction line with
  | nil => simp
  | cons c line ih =>
    simp only [List.mem_cons, not_or] at hfeed hreturn
    rw [List.cons_append, lines, ih hfeed.2 hreturn.2]
    · exact fun h => hfeed.1 h.symm
    · exact fun _ h => absurd h.symm hreturn.1

end RecordSieve.Text
