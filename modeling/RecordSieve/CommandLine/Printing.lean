/-
RecordSieve.CommandLine.Printing — computations that print and may fail.

What was printed before a failure stays printed, so it can be said of a
computation that it fails without having printed anything.
-/
import RecordSieve.Failure

namespace RecordSieve.CommandLine

/-- A computation that prints text and may fail. -/
abbrev Printing (ε α : Type) := ExceptT (Failure ε) (StateM String) α

namespace Printing

variable {ε α : Type}

/-- Prints text. -/
def print (text : String) : Printing ε Unit := modify (· ++ text)

/-- A computation that prints nothing. -/
def silently (x : Attempt ε α) : Printing ε α := ExceptT.mk (pure x)

/-- What a computation comes to, and what is printed before it ends. -/
def outcome (x : Printing ε α) : Attempt ε α × String := StateT.run (ExceptT.run x) ""

@[simp] theorem outcome_silently (x : Attempt ε α) : outcome (silently x) = (x, "") := rfl

@[simp] theorem outcome_print (text : String) :
    outcome (print text : Printing ε Unit) = (.ok (), "" ++ text) := rfl

/-- After a silent failure nothing is printed. -/
theorem outcome_silently_error_bind {β : Type} (failure : Failure ε) (f : α → Printing ε β) :
    outcome (silently (.error failure) >>= f) = (.error failure, "") := rfl

/-- A silent success leaves all printing to what follows. -/
theorem outcome_silently_ok_bind {β : Type} (a : α) (f : α → Printing ε β) :
    outcome (silently (.ok a) >>= f) = outcome (f a) := rfl

end Printing

end RecordSieve.CommandLine
