/-
RecordSieve.Proofs.CommandLine.Output — what the commands print.

`filter` prints while it evaluates, and so its run is followed record by
record: `runFrom` says what is printed in the end, beginning with what has
been printed before, and each record that passes adds its line
(`runFrom_printMatches_append`).  `explain` has all its entries before it
prints them, and a command that is refused is refused before it prints.
-/
import RecordSieve.CommandLine.Report
import RecordSieve.Proofs.Json.CompactText
import RecordSieve.Proofs.Rule.BreakOff

namespace RecordSieve

/-! ## Filtering -/

namespace Session

variable {s : Session} {record : Json} {records items : List Json}

/-- Whether a record passes the rule, if there is an answer. -/
def passes (s : Session) (record : Json) : Bool :=
  match s.evaluate record with
  | .ok b => b
  | .error _ => false

theorem evaluate_eq_passes (h : ¬ s.root.BreaksOff s.options record) :
    s.evaluate record = .ok (s.passes record) := by
  obtain ⟨b, hb⟩ := Rule.exists_evaluate_iff.mpr h
  have hevaluate : s.evaluate record = .ok b := hb
  rw [passes, hevaluate]

theorem evaluate_eq_aborted (h : s.root.BreaksOff s.options record) :
    s.evaluate record = .error .offsetCut :=
  Rule.evaluate_eq_error_iff s.root |>.mpr h

theorem filter_eq_ok (h : ∀ r ∈ records, ¬ s.root.BreaksOff s.options r) :
    s.filter records = .ok (records.filter s.passes) :=
  filterM_eq_ok fun r hr => evaluate_eq_passes (h r hr)

theorem filterArray_eq_ok (h : ∀ r ∈ items.filter Json.isObject, ¬ s.root.BreaksOff s.options r) :
    s.filterArray (.array items) = .ok ((items.filter Json.isObject).filter s.passes) :=
  filter_eq_ok h

end Session

namespace CommandLine

namespace Printing

variable {ε α β : Type}

/-- What a computation comes to, and what is printed in the end if there
is something printed before. -/
def runFrom (printed : String) (x : Printing ε α) : Attempt ε α × String :=
  StateT.run (ExceptT.run x) printed

theorem outcome_eq_runFrom (x : Printing ε α) : outcome x = runFrom "" x := rfl

@[simp] theorem runFrom_pure (printed : String) (a : α) :
    runFrom printed (pure a : Printing ε α) = (.ok a, printed) := rfl

theorem runFrom_silently_error_bind (printed : String) (failure : Failure ε)
    (f : α → Printing ε β) :
    runFrom printed (silently (.error failure) >>= f) = (.error failure, printed) := rfl

theorem runFrom_silently_ok_bind (printed : String) (a : α) (f : α → Printing ε β) :
    runFrom printed (silently (.ok a) >>= f) = runFrom printed (f a) := rfl

theorem runFrom_print_bind (printed text : String) (f : Unit → Printing ε β) :
    runFrom printed (print text >>= f) = runFrom (printed ++ text) (f ()) := rfl

/-- Going on without failure or print changes the result only. -/
theorem runFrom_bind_pure (printed : String) (x : Printing ε α) (f : α → β) :
    runFrom printed (x >>= fun a => pure (f a)) =
      ((runFrom printed x).1.map f, (runFrom printed x).2) := by
  show StateT.run (ExceptT.run (x >>= fun a => pure (f a))) printed = _
  rw [ExceptT.run_bind, StateT.run_bind]
  unfold runFrom
  rcases StateT.run (ExceptT.run x) printed with ⟨_ | a, text⟩ <;> rfl

/-- A computation that is refused has printed nothing. -/
def RefusesSilently (x : Printing ε α) : Prop :=
  ∀ cause printed, outcome x = (.error (.refused cause), printed) → printed = ""

variable {x : Printing ε α}

theorem refusesSilently_of_ne (h : ∀ cause, (outcome x).1 ≠ .error (.refused cause)) :
    RefusesSilently x := by
  intro cause printed hx
  exact absurd (congrArg Prod.fst hx) (h cause)

theorem refusesSilently_silently_bind {y : Attempt ε α} {f : α → Printing ε β}
    (hf : ∀ a, RefusesSilently (f a)) : RefusesSilently (silently y >>= f) := by
  intro cause printed h
  cases y with
  | error failure =>
    rw [outcome_silently_error_bind] at h
    exact (congrArg Prod.snd h).symm
  | ok a =>
    rw [outcome_silently_ok_bind] at h
    exact hf a cause printed h

theorem refusesSilently_print (text : String) :
    RefusesSilently (print text : Printing ε Unit) :=
  refusesSilently_of_ne fun _ => by simp

theorem RefusesSilently.bind_pure (hx : RefusesSilently x) (f : α → β) :
    RefusesSilently (x >>= fun a => pure (f a)) := by
  intro cause printed h
  rw [outcome_eq_runFrom, runFrom_bind_pure] at h
  refine hx cause printed ?_
  obtain ⟨hresult, hprinted⟩ := Prod.mk.inj h
  rcases hrun : runFrom "" x with ⟨failure | a, text⟩
  · rw [hrun] at hresult hprinted
    rw [outcome_eq_runFrom, hrun]
    exact Prod.ext (congrArg Except.error (Except.error.inj hresult)) hprinted
  · rw [hrun] at hresult
    cases hresult

end Printing

open Printing

/-! ## The lines of `filter` -/

/-- The same output, with a number added to the result. -/
def counted (n : Nat) (output : Attempt CommandError Nat × String) :
    Attempt CommandError Nat × String :=
  (output.1.map (· + n), output.2)

theorem counted_zero (output : Attempt CommandError Nat × String) : counted 0 output = output := by
  obtain ⟨_ | n, text⟩ := output <;> rfl

theorem counted_counted (m n : Nat) (output : Attempt CommandError Nat × String) :
    counted m (counted n output) = counted (n + m) output := by
  obtain ⟨_ | k, text⟩ := output
  · rfl
  · simp [counted, Except.map, Nat.add_assoc]

section

variable {s : Session} {record : Json} {records before : List Json}

/-- A record that passes adds a line, and one to the number. -/
theorem runFrom_printMatches_cons {b : Bool} (h : s.evaluate record = .ok b) (printed : String) :
    runFrom printed (printMatches s (record :: records)) =
      if b then
        counted 1 (runFrom (printed ++ String.ofList (RecordText.writeLine record))
          (printMatches s records))
      else runFrom printed (printMatches s records) := by
  rw [printMatches, h]
  show runFrom printed (silently (.ok b) >>= _) = _
  rw [runFrom_silently_ok_bind]
  cases b with
  | false => rfl
  | true =>
    simp only [if_true]
    rw [runFrom_print_bind]
    exact runFrom_bind_pure _ (printMatches s records) (· + 1)

theorem runFrom_printMatches_cons_aborted (h : s.evaluate record = .error .offsetCut)
    (printed : String) : runFrom printed (printMatches s (record :: records)) =
      (.error (.aborted .offsetCut), printed) := by
  rw [printMatches, h]
  exact runFrom_silently_error_bind printed (.aborted .offsetCut) _

/-- Records that do not break off leave the lines of those that pass, and
add their number to the result. -/
theorem runFrom_printMatches_append
    (hbefore : ∀ r ∈ before, ¬ s.root.BreaksOff s.options r) (printed : String) :
    runFrom printed (printMatches s (before ++ records)) =
      counted (before.filter s.passes).length
        (runFrom (printed ++ RecordText.write (before.filter s.passes))
          (printMatches s records)) := by
  induction before generalizing printed with
  | nil =>
    have hnone : RecordText.write ([].filter s.passes) = "" := rfl
    rw [hnone, String.append_empty]
    exact (counted_zero _).symm
  | cons record before ih =>
    obtain ⟨hrecord, hbefore⟩ := List.forall_mem_cons.mp hbefore
    rw [List.cons_append, runFrom_printMatches_cons (Session.evaluate_eq_passes hrecord)]
    cases hpasses : s.passes record with
    | false =>
      rw [List.filter_cons_of_neg (by simp [hpasses])]
      exact ih hbefore printed
    | true =>
      rw [List.filter_cons_of_pos hpasses, if_pos rfl, ih hbefore, counted_counted,
        RecordText.write_cons, String.append_assoc, List.length_cons]

theorem outcome_printMatches (hrecords : ∀ r ∈ records, ¬ s.root.BreaksOff s.options r) :
    outcome (printMatches s records) =
      (.ok (records.filter s.passes).length, RecordText.write (records.filter s.passes)) := by
  have hrun := @runFrom_printMatches_append s [] records hrecords ""
  rw [List.append_nil, String.empty_append] at hrun
  refine hrun.trans ?_
  simp [printMatches, counted, Except.map]

/-- The lines of the records that pass before the first that breaks off are printed. -/
theorem outcome_printMatches_aborted (hbefore : ∀ r ∈ before, ¬ s.root.BreaksOff s.options r)
    (hrecord : s.root.BreaksOff s.options record) :
    outcome (printMatches s (before ++ record :: records)) =
      (.error (.aborted .offsetCut), RecordText.write (before.filter s.passes)) := by
  have hrun := @runFrom_printMatches_append s (record :: records) before hbefore ""
  rw [String.empty_append,
    runFrom_printMatches_cons_aborted (Session.evaluate_eq_aborted hrecord)] at hrun
  exact hrun

/-- Once records are printed, nothing is refused. -/
theorem runFrom_printMatches_ne_refused (records : List Json) (printed : String)
    (cause : CommandError) :
    (runFrom printed (printMatches s records)).1 ≠ .error (.refused cause) := by
  induction records generalizing printed with
  | nil => simp [printMatches]
  | cons record records ih =>
    rcases hevaluate : s.evaluate record with ⟨⟨⟩⟩ | b
    · simp [runFrom_printMatches_cons_aborted hevaluate]
    · rw [runFrom_printMatches_cons hevaluate]
      cases b with
      | false => exact ih printed
      | true =>
        intro h
        refine ih (printed ++ String.ofList (RecordText.writeLine record)) ?_
        simp only [if_true, counted] at h
        cases hrest : (runFrom (printed ++ String.ofList (RecordText.writeLine record))
            (printMatches s records)).1 with
        | error failure => rw [hrest] at h; exact h
        | ok n => rw [hrest] at h; cases h

end

/-! ## The entries of `explain` -/

/-- What an entry says of a record: which it is, and whether it passes. -/
def entryVerdict (entry : Json) : Option Json × Option Json :=
  (entry.get? "record", entry.get? "matched")

theorem explanationEntries_eq_ok {s : Session} {records : List Json} (index : Nat)
    (hrecords : ∀ r ∈ records, ¬ s.root.BreaksOff s.options r) :
    ∃ entries, explanationEntries s index records = .ok entries ∧
      entries.map entryVerdict = records.map fun r => (some r, some (.bool (s.passes r))) := by
  induction records generalizing index with
  | nil => exact ⟨[], rfl, rfl⟩
  | cons record records ih =>
    obtain ⟨hrecord, hrecords⟩ := List.forall_mem_cons.mp hrecords
    obtain ⟨entries, hentries, hverdicts⟩ := ih (index + 1) hrecords
    have hevaluate := Session.evaluate_eq_passes hrecord
    obtain ⟨e, he⟩ : ∃ e, s.explain record = .ok e :=
      Session.exists_explain_iff.mpr ⟨_, hevaluate⟩
    have hmatched : e.matched = s.passes record := by
      have heq : (s.explain record).map Explanation.matched = s.evaluate record :=
        Rule.explain_matched s.tracing s.root
      rw [he, hevaluate] at heq
      exact Except.ok.inj heq
    refine ⟨explanationEntry index record e :: entries, ?_, ?_⟩
    · rw [explanationEntries, he, hentries]
      rfl
    · rw [List.map_cons, List.map_cons, hverdicts, ← hmatched]
      rfl

theorem explanationEntries_eq_aborted {s : Session} {records : List Json} (index : Nat)
    (hrecords : ∃ r ∈ records, s.root.BreaksOff s.options r) :
    explanationEntries s index records = .error .offsetCut := by
  induction records generalizing index with
  | nil => simp at hrecords
  | cons record records ih =>
    rw [explanationEntries]
    rcases hexplain : s.explain record with ⟨⟨⟩⟩ | e
    · rfl
    · have hrecord : ¬ s.root.BreaksOff s.options record := by
        rw [← Rule.exists_evaluate_iff]
        exact Session.exists_explain_iff.mp ⟨e, hexplain⟩
      have hrest : ∃ r ∈ records, s.root.BreaksOff s.options r := by
        obtain ⟨r, hr, hbreak⟩ := hrecords
        rcases List.mem_cons.mp hr with rfl | hr
        · exact absurd hbreak hrecord
        · exact ⟨r, hr, hbreak⟩
      rw [ih (index + 1) hrest]
      rfl

/-! ## The commands -/

section

variable {surroundings : Surroundings} {options : RuleOptions} {rule path text : String}
  {data : Option String} {s : Session} {records : List Json}

theorem openRule_eq_ok {ruleText : String} {definition : Json}
    (hfile : surroundings.file? rule = some ruleText)
    (hjson : Json.ofText? ruleText = some definition)
    (hstart : Session.start definition options = .ok s) :
    openRule surroundings options rule = .ok s := by
  simp [openRule, hfile, hjson, hstart, Attempt.ofOption, Attempt.mapCause, bind, Except.bind]

theorem readRecords_eq_ok (hdata : dataText surroundings data = .ok text)
    (hread : RecordText.read text = .ok records) : readRecords surroundings data = .ok records := by
  simp [readRecords, hdata, hread, bind, Except.bind, pure, Except.pure]

/-- With its inputs read, `filter` is left with printing the records. -/
theorem outcome_filter (hrule : openRule surroundings options rule = .ok s)
    (hrecords : readRecords surroundings data = .ok records) :
    outcome (filter surroundings options rule data) = outcome (printMatches s records) := by
  rw [filter, hrule, outcome_silently_ok_bind, hrecords, outcome_silently_ok_bind]

theorem outcome_explain (hrule : openRule surroundings options rule = .ok s)
    (hrecords : readRecords surroundings (some path) = .ok records) {entries : List Json}
    (hentries : explanationEntries s.traced 0 records = .ok entries) :
    outcome (explain surroundings options rule path) =
      (.ok (), (Json.array entries).prettyText ++ "\n") := by
  rw [explain, hrule, outcome_silently_ok_bind, hrecords, outcome_silently_ok_bind, hentries]
  show outcome (print ((Json.array entries).prettyText ++ "\n")) = _
  rw [outcome_print, String.empty_append]

theorem outcome_explain_aborted (hrule : openRule surroundings options rule = .ok s)
    (hrecords : readRecords surroundings (some path) = .ok records)
    (hentries : explanationEntries s.traced 0 records = .error .offsetCut) :
    outcome (explain surroundings options rule path) = (.error (.aborted .offsetCut), "") := by
  rw [explain, hrule, outcome_silently_ok_bind, hrecords, outcome_silently_ok_bind, hentries]
  rfl

end

/-- A command that is refused has printed nothing. -/
theorem refusesSilently_run (surroundings : Surroundings) (options : RuleOptions)
    (command : Command) : RefusesSilently (command.run surroundings options) := by
  cases command with
  | filter rule data =>
    refine RefusesSilently.bind_pure ?_ some
    refine refusesSilently_silently_bind fun s => refusesSilently_silently_bind fun records => ?_
    exact refusesSilently_of_ne fun cause => runFrom_printMatches_ne_refused records "" cause
  | check rule =>
    refine RefusesSilently.bind_pure ?_ fun _ => none
    exact refusesSilently_silently_bind fun s => refusesSilently_print _
  | explain rule data =>
    refine RefusesSilently.bind_pure ?_ fun _ => none
    refine refusesSilently_silently_bind fun s => refusesSilently_silently_bind fun records => ?_
    exact refusesSilently_silently_bind fun entries => refusesSilently_print _

/-! ## Inputs of two runs -/

/-- A rule in the file `rule`, and data at standard input. -/
def ruleAndData (ruleText text : String) : Surroundings where
  file? path := if path = "rule" then some ruleText else none
  standardInput := text

/-- Whether filtering has a result, if the rule and the data can be read. -/
def hasResult (ruleText text : String) (options : RuleOptions) :
    Option (Attempt RuleError (Except RecordError Bool)) :=
  (Json.ofText? ruleText).map fun definition =>
    (Session.start definition options).map fun s =>
      (RecordText.values text.toList).map fun values =>
        (s.filter (values.filter Json.isObject)).toBool

theorem exists_inputs {ruleText text : String} {options : RuleOptions} {b : Bool}
    (h : hasResult ruleText text options = some (.ok (.ok b))) :
    ∃ definition s values, Json.ofText? ruleText = some definition ∧
      Session.start definition options = .ok s ∧ RecordText.values text.toList = .ok values ∧
      (b = true ↔ ∀ r ∈ values.filter Json.isObject, ¬ s.root.BreaksOff s.options r) := by
  unfold hasResult at h
  rcases hjson : Json.ofText? ruleText with _ | definition
  · rw [hjson] at h
    cases h
  rcases hstart : Session.start definition options with failure | s
  · rw [hjson, Option.map_some, hstart] at h
    cases h
  rcases hvalues : RecordText.values text.toList with cause | values
  · rw [hjson, Option.map_some, hstart, hvalues] at h
    cases h
  rw [hjson, Option.map_some, hstart, hvalues] at h
  refine ⟨definition, s, values, rfl, hstart, rfl, ?_⟩
  rw [← Session.exists_filter_iff]
  have hb : (s.filter (values.filter Json.isObject)).toBool = b :=
    Except.ok.inj (Except.ok.inj (Option.some.inj h))
  rw [← hb]
  cases s.filter (values.filter Json.isObject) <;> simp [Except.toBool]

/-- The rule that a date is missing. -/
def missingDateText : String :=
  "\x7b\"field\":\"d\",\"type\":\"datetime\",\"operator\":\"is_null\"\x7d"

/-- A record with a date, a value that is no record, and a record without a date. -/
def datedLines : String := "\x7b\"d\":\"2019-06-01\"\x7d\n7\n\x7b\x7d\n"

/-- The offset of the date is cut between the bytes of a digit. -/
def cutLine : String := "\x7b\"d\":\"2019-06-01 08:00 +\u0966\u096B\"\x7d\n"

theorem hasResult_datedLines : hasResult missingDateText datedLines {} = some (.ok (.ok true)) := by
  decide +kernel

theorem hasResult_cutLine : hasResult missingDateText cutLine {} = some (.ok (.ok false)) := by
  decide +kernel

/-! ## The records that pass -/

/-- With a rule and data that can be read, `filter` prints the records that
pass, each as compact text on a line of its own and in the order of the
data, and counts them; they are the records that filtering the data as an
array leaves, and those with `matched` true among the entries that
`explain` prints.  If a record breaks off, `filter` ends there with the
lines before it, and `explain` prints nothing.  A command that is refused
has printed nothing. -/
theorem commands_print (surroundings : Surroundings) (defaults : RuleOptions)
    (overrides : Overrides) :
    (∀ rule ruleText definition s data text values,
      surroundings.file? rule = some ruleText → Json.ofText? ruleText = some definition →
      Session.start definition (overrides.applyTo defaults) = .ok s →
      dataText surroundings data = .ok text → RecordText.values text.toList = .ok values →
      let records := values.filter Json.isObject
      ((∀ r ∈ records, ¬ s.root.BreaksOff s.options r) →
        let kept := records.filter s.passes
        outcome (filter surroundings (overrides.applyTo defaults) rule data) =
          (.ok kept.length, RecordText.write kept) ∧
        Text.lines (RecordText.write kept).toList = kept.map Json.compact ∧
        s.filter records = .ok kept ∧ s.filterArray (.array values) = .ok kept ∧
        ∀ path, data = some path → ∃ entries,
          outcome (explain surroundings (overrides.applyTo defaults) rule path) =
            (.ok (), (Json.array entries).prettyText ++ "\n") ∧
          entries.map entryVerdict = records.map fun r => (some r, some (.bool (s.passes r)))) ∧
      ∀ before record after, records = before ++ record :: after →
        (∀ r ∈ before, ¬ s.root.BreaksOff s.options r) → s.root.BreaksOff s.options record →
        outcome (filter surroundings (overrides.applyTo defaults) rule data) =
          (.error (.aborted .offsetCut), RecordText.write (before.filter s.passes)) ∧
        ∀ path, data = some path →
          outcome (explain surroundings (overrides.applyTo defaults) rule path) =
            (.error (.aborted .offsetCut), "")) ∧
    ∀ command : Command,
      RefusesSilently (command.run surroundings (overrides.applyTo defaults)) := by
  refine ⟨?_, refusesSilently_run surroundings _⟩
  intro rule ruleText definition s data text values hfile hjson hstart hdata hvalues records
  have hrule := openRule_eq_ok hfile hjson hstart
  have hread : RecordText.read text = .ok records := by
    rw [RecordText.read, hvalues]
    rfl
  have hrecords := readRecords_eq_ok hdata hread
  constructor
  · intro hcalm kept
    refine ⟨?_, RecordText.lines_write kept, Session.filter_eq_ok hcalm,
      Session.filterArray_eq_ok hcalm, ?_⟩
    · exact (outcome_filter hrule hrecords).trans (outcome_printMatches hcalm)
    · rintro path rfl
      obtain ⟨entries, hentries, hverdicts⟩ :=
        @explanationEntries_eq_ok s.traced records 0 hcalm
      exact ⟨entries, outcome_explain hrule hrecords hentries, hverdicts⟩
  · intro before record after hsplit hbefore hrecord
    constructor
    · rw [outcome_filter hrule hrecords, hsplit]
      exact outcome_printMatches_aborted hbefore hrecord
    · rintro path rfl
      have hbreak : ∃ r ∈ records, s.root.BreaksOff s.options r := by
        rw [hsplit]
        exact ⟨record, by simp, hrecord⟩
      exact outcome_explain_aborted hrule hrecords
        (@explanationEntries_eq_aborted s.traced records 0 hbreak)

/-- The one record has no date that can be read, but `filter` does not print it. -/
theorem not_filter_prints_cutLine :
    ¬ ∀ (surroundings : Surroundings) (defaults : RuleOptions) (overrides : Overrides)
      (rule ruleText : String) (definition : Json) (s : Session) (data : Option String)
      (text : String) (values : List Json),
      surroundings.file? rule = some ruleText → Json.ofText? ruleText = some definition →
      Session.start definition (overrides.applyTo defaults) = .ok s →
      dataText surroundings data = .ok text → RecordText.values text.toList = .ok values →
      ∃ kept : List Json, outcome (filter surroundings (overrides.applyTo defaults) rule data) =
        (.ok kept.length, RecordText.write kept) := by
  intro h
  obtain ⟨definition, s, values, hjson, hstart, hvalues, -⟩ := exists_inputs hasResult_cutLine
  obtain ⟨kept, hkept⟩ := h (ruleAndData missingDateText cutLine) {} {} "rule" missingDateText
    definition s none cutLine values rfl hjson hstart rfl hvalues
  have haborted : (outcome (filter (ruleAndData missingDateText cutLine)
      (({} : Overrides).applyTo {}) "rule" none)).1 = .error (.aborted .offsetCut) := by
    decide +kernel
  rw [hkept] at haborted
  cases haborted

/-- Filtering for missing dates, once with a date that can be read and
once with one that breaks off. -/
theorem commands_print_dates :
    (∃ kept : List Json,
      outcome (filter (ruleAndData missingDateText datedLines) (({} : Overrides).applyTo {}) "rule"
        none) = (.ok kept.length, RecordText.write kept) ∧
      Text.lines (RecordText.write kept).toList = kept.map Json.compact) ∧
    (∃ before : List Json,
      outcome (filter (ruleAndData missingDateText cutLine) (({} : Overrides).applyTo {}) "rule"
        none) = (.error (.aborted .offsetCut), RecordText.write before)) ∧
    RefusesSilently ((Command.check "other").run (ruleAndData missingDateText datedLines)
      (({} : Overrides).applyTo {})) := by
  refine ⟨?_, ?_, ?_⟩
  · obtain ⟨definition, s, values, hjson, hstart, hvalues, hcalm⟩ :=
      exists_inputs hasResult_datedLines
    obtain ⟨hruns, -⟩ := commands_print (ruleAndData missingDateText datedLines) {} {}
    obtain ⟨hfilter, -⟩ := hruns "rule" missingDateText definition s none datedLines values
      rfl hjson hstart rfl hvalues
    obtain ⟨hprinted, hlines, -⟩ := hfilter (hcalm.mp rfl)
    exact ⟨_, hprinted, hlines⟩
  · obtain ⟨definition, s, values, hjson, hstart, hvalues, hcalm⟩ :=
      exists_inputs hasResult_cutLine
    obtain ⟨hruns, -⟩ := commands_print (ruleAndData missingDateText cutLine) {} {}
    obtain ⟨-, hcut⟩ := hruns "rule" missingDateText definition s none cutLine values
      rfl hjson hstart rfl hvalues
    have hbreak : ∃ r ∈ values.filter Json.isObject, s.root.BreaksOff s.options r := by
      simpa [and_assoc] using hcalm
    obtain ⟨before, record, after, hsplit, hbefore, hrecord⟩ :=
      (reaches_iff_exists fun _ => id).mpr hbreak
    exact ⟨_, (hcut before record after hsplit hbefore hrecord).1⟩
  · obtain ⟨-, hrefused⟩ := commands_print (ruleAndData missingDateText datedLines) {} {}
    exact hrefused (.check "other")

end CommandLine

end RecordSieve
