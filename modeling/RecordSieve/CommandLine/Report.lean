/-
RecordSieve.CommandLine.Report — what the three commands print.

`filter` prints the records that pass a rule, one to a line; `check`
prints a rule in two forms and the fields it needs; `explain` prints how
the rule came to its answer for each record.  A command reads all its
inputs before it prints anything.
-/
import RecordSieve.CommandLine.Arguments
import RecordSieve.CommandLine.Printing
import RecordSieve.RecordText
import RecordSieve.Session
import RecordSieve.Settings.Basic

namespace RecordSieve.CommandLine

/-- Why a command fails. -/
inductive CommandError where
  /-- The file of the rule cannot be read. -/
  | unreadableRule (path : String)
  /-- The file of the rule is not JSON. -/
  | ruleNotJson (path : String)
  /-- The definition in the file is refused. -/
  | invalidRule (path : String) (cause : RuleError)
  /-- The file of the records cannot be read. -/
  | unreadableData (path : String)
  /-- The data hold no records. -/
  | invalidData (cause : RecordError)
  deriving DecidableEq, Repr

/-- The wording of the error. -/
def CommandError.message : CommandError → String
  | unreadableRule path => s!"读取规则文件失败: {path}"
  | ruleNotJson path => s!"规则文件不是有效的 JSON: {path}"
  | invalidRule path _ => s!"规则定义无效: {path}"
  | unreadableData path => s!"读取数据文件失败: {path}"
  | invalidData cause => cause.message

/-- The options with what the command line changes. -/
def Overrides.applyTo (overrides : Overrides) (options : RuleOptions) : RuleOptions where
  locale :=
    match overrides.locale with
    | some tag => .ofTag tag
    | none => options.locale
  compare := ⟨options.compare.ignoreCase || overrides.ignoreCase,
    options.compare.ignoreAccents || overrides.ignoreAccents⟩

/-! ## Reading the inputs -/

/-- The session of the rule in a file. -/
def openRule (surroundings : Surroundings) (options : RuleOptions) (path : String) :
    Attempt CommandError Session := do
  let text ← Attempt.ofOption (.unreadableRule path) (surroundings.file? path)
  let definition ← Attempt.ofOption (.ruleNotJson path) (Json.ofText? text)
  (Session.start definition options).mapCause (.invalidRule path)

/-- Whether a path stands for standard input: a dash, alone in its place. -/
def isStandardInput (path : String) : Bool :=
  match Text.splitWhere (· == '/') path.toList with
  | ['-'] :: rest => rest.all fun name => name == [] || name == ['.']
  | _ => false

/-- The text of the data; without a path they are standard input. -/
def dataText (surroundings : Surroundings) : Option String → Attempt CommandError String
  | none => .ok surroundings.standardInput
  | some path =>
    if isStandardInput path then .ok surroundings.standardInput
    else Attempt.ofOption (.unreadableData path) (surroundings.file? path)

/-- The records of the data. -/
def readRecords (surroundings : Surroundings) (path : Option String) :
    Attempt CommandError (List Json) := do
  match RecordText.read (← dataText surroundings path) with
  | .ok records => return records
  | .error cause => Attempt.refuse (.invalidData cause)

/-! ## Printing -/

/-- Prints the records that pass the session's rule, and counts them. -/
def printMatches (session : Session) : List Json → Printing CommandError Nat
  | [] => return 0
  | record :: records => do
    if ← Printing.silently (.ofOutcome (session.evaluate record)) then
      Printing.print (String.ofList (RecordText.writeLine record))
      return (← printMatches session records) + 1
    else printMatches session records

/-- The lines of a rule's summary. -/
def summary (session : Session) : String :=
  "rule:     " ++ session.display ++ "\n" ++
  "friendly: " ++ session.friendly ++ "\n" ++
  "fields:   " ++ String.intercalate ", " session.requiredFields ++ "\n"

/-- The entry of a record in an explanation.  Its members stand in the
order in which they are read, not in the order of their keys, so it
serves for printing only.  Times are not measured and always zero. -/
def explanationEntry (index : Nat) (record : Json) (explanation : Explanation) : Json :=
  .object [
    ("index", .ofNat index),
    ("record", record),
    ("matched", .bool explanation.matched),
    ("matched_conditions", .array (explanation.conditions.map .string)),
    ("evaluation_trace", .array (explanation.trace.map .string)),
    ("evaluation_time_us", .ofNat 0)]

/-- The entries of records, which are counted from an index on. -/
def explanationEntries (session : Session) (index : Nat) : List Json → Except Abort (List Json)
  | [] => .ok []
  | record :: records => do
    let entry := explanationEntry index record (← session.explain record)
    return entry :: (← explanationEntries session (index + 1) records)

/-! ## The commands -/

/-- Prints the records that pass a rule; the result is their number. -/
def filter (surroundings : Surroundings) (options : RuleOptions) (rule : String)
    (data : Option String) : Printing CommandError Nat := do
  let session ← Printing.silently (openRule surroundings options rule)
  let records ← Printing.silently (readRecords surroundings data)
  printMatches session records

/-- Prints a rule's summary. -/
def check (surroundings : Surroundings) (options : RuleOptions) (rule : String) :
    Printing CommandError Unit := do
  let session ← Printing.silently (openRule surroundings options rule)
  Printing.print (summary session)

/-- Prints how a rule comes to its answers, with every step. -/
def explain (surroundings : Surroundings) (options : RuleOptions) (rule data : String) :
    Printing CommandError Unit := do
  let session ← Printing.silently (openRule surroundings options rule)
  let records ← Printing.silently (readRecords surroundings (some data))
  let entries ← Printing.silently (.ofOutcome (explanationEntries session.traced 0 records))
  Printing.print ((Json.array entries).prettyText ++ "\n")

/-- Runs a command under options; only `filter` has a number as its result. -/
def Command.run (surroundings : Surroundings) (options : RuleOptions) :
    Command → Printing CommandError (Option Nat)
  | .filter rule data => do return some (← CommandLine.filter surroundings options rule data)
  | .check rule => do CommandLine.check surroundings options rule; return none
  | .explain rule data => do CommandLine.explain surroundings options rule data; return none

end RecordSieve.CommandLine
