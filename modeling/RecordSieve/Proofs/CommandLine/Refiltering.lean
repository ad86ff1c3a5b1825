/-
RecordSieve.Proofs.CommandLine.Refiltering — what `filter` prints is data
for `filter`.

The lines that are printed are the compact texts of records that passed the
rule, whether or not the run broke off after them
(`exists_kept_printMatches`).  Read again they are these records, each of
them passes again, and so they are printed as they were.
-/
import RecordSieve.Proofs.CommandLine.Output
import RecordSieve.Proofs.RecordText

namespace RecordSieve.CommandLine

open Printing

/-! ## Records that pass -/

section

variable {s : Session} {records kept : List Json}

theorem not_breaksOff_of_evaluate {record : Json} {b : Bool} (h : s.evaluate record = .ok b) :
    ¬ s.root.BreaksOff s.options record :=
  Rule.exists_evaluate_iff.mp ⟨b, h⟩

/-- Records that all pass are all printed. -/
theorem outcome_printMatches_of_pass (h : ∀ r ∈ kept, s.evaluate r = .ok true) :
    outcome (printMatches s kept) = (.ok kept.length, RecordText.write kept) := by
  have hpasses : kept.filter s.passes = kept :=
    List.filter_eq_self.mpr fun r hr => by rw [Session.passes, h r hr]
  rw [outcome_printMatches fun r hr => not_breaksOff_of_evaluate (h r hr), hpasses]

theorem evaluate_of_mem_filter_passes (hcalm : ∀ r ∈ records, ¬ s.root.BreaksOff s.options r)
    {record : Json} (h : record ∈ records.filter s.passes) :
    record ∈ records ∧ s.evaluate record = .ok true := by
  obtain ⟨hmem, hpasses⟩ := List.mem_filter.mp h
  rw [Session.evaluate_eq_passes (hcalm record hmem), hpasses]
  exact ⟨hmem, rfl⟩

/-- What is printed are records that pass, as many as are counted. -/
theorem exists_kept_printMatches (s : Session) (records : List Json) :
    ∃ kept, (∀ r ∈ kept, r ∈ records ∧ s.evaluate r = .ok true) ∧
      (outcome (printMatches s records)).2 = RecordText.write kept ∧
      ∀ n, (outcome (printMatches s records)).1 = .ok n → n = kept.length := by
  by_cases hcalm : ∀ r ∈ records, ¬ s.root.BreaksOff s.options r
  · rw [outcome_printMatches hcalm]
    refine ⟨_, fun r hr => evaluate_of_mem_filter_passes hcalm hr, rfl, ?_⟩
    rintro n hn
    exact (Except.ok.inj hn).symm
  · have hbreak : ∃ r ∈ records, s.root.BreaksOff s.options r := by simpa using hcalm
    obtain ⟨before, record, after, rfl, hbefore, hrecord⟩ :=
      (reaches_iff_exists fun _ => id).mpr hbreak
    rw [outcome_printMatches_aborted hbefore hrecord]
    refine ⟨_, fun r hr => ?_, rfl, fun n hn => nomatch hn⟩
    obtain ⟨hr, hpass⟩ := evaluate_of_mem_filter_passes hbefore hr
    exact ⟨List.mem_append_left _ hr, hpass⟩

end

/-! ## Filtering again -/

theorem openRule_congr {surroundings again : Surroundings} {rule : String}
    (h : again.file? rule = surroundings.file? rule) (options : RuleOptions) :
    openRule again options rule = openRule surroundings options rule := by
  rw [openRule, openRule, h]

/-- What was printed is printed again, and counted alike. -/
theorem filter_printed {surroundings again : Surroundings} {options : RuleOptions} {rule : String}
    {data printed : Option String} {records : List Json}
    (hrecords : readRecords surroundings data = .ok records)
    (hobject : ∀ r ∈ records, r.isObject = true)
    (hreread : ∀ r ∈ records, Json.ofText? r.text = some r)
    (hrule : again.file? rule = surroundings.file? rule)
    (hprinted : dataText again printed = .ok (outcome (filter surroundings options rule data)).2) :
    (outcome (filter again options rule printed)).2 =
        (outcome (filter surroundings options rule data)).2 ∧
      ∀ n, (outcome (filter surroundings options rule data)).1 = .ok n →
        (outcome (filter again options rule printed)).1 = .ok n := by
  have hopen := openRule_congr hrule options
  rcases hsession : openRule surroundings options rule with failure | s
  · rw [hsession] at hopen
    rw [filter, filter, hsession, hopen]
    exact ⟨rfl, fun n hn => hn⟩
  · rw [hsession] at hopen
    obtain ⟨kept, hkept, htext, hcount⟩ := exists_kept_printMatches s records
    rw [outcome_filter hsession hrecords] at hprinted ⊢
    rw [htext] at hprinted ⊢
    have hread : readRecords again printed = .ok kept :=
      readRecords_eq_ok hprinted (RecordText.read_onLines (RecordText.onLines_write kept)
        (fun r hr => hobject r (hkept r hr).1) fun r hr => hreread r (hkept r hr).1)
    rw [outcome_filter hopen hread, outcome_printMatches_of_pass fun r hr => (hkept r hr).2]
    refine ⟨rfl, fun n hn => ?_⟩
    rw [hcount n hn]

/-! ## Inputs of a run -/

/-- A record with a line break in a string, and one with levels inside. -/
def breakRecord : Json := .object [("s", .string "a\nb")]
def leveledRecord : Json := .object [("d", .array [.null, .object []])]

/-- The two on lines, with a blank line between them. -/
def crlfLines : String := "\x7b\"s\":\"a\\nb\"\x7d\r\n \n\x7b\"d\":[null,\x7b\x7d]\x7d"

/-- The two in an array, with a number between them. -/
def threeItems : String := "[\x7b\"s\":\"a\\nb\"\x7d, 7,\x7b\"d\":[null,\x7b\x7d]\x7d]\n"

theorem onLines_crlfLines : RecordText.OnLines [breakRecord, leveledRecord] crlfLines.toList := by
  have htext : crlfLines.toList =
      breakRecord.compact ++ (['\r', '\n'] ++ ([' '] ++ (['\n'] ++ leveledRecord.compact))) := by
    decide +kernel
  rw [htext]
  exact .record _ (by decide) (.blank (by decide) (by decide) (by decide) (.lastRecord _))

theorem inArray_threeItems : RecordText.InArray [breakRecord, leveledRecord] threeItems.toList := by
  refine ⟨[], [], [[] ++ breakRecord.compact ++ [], [' ', '7'], [] ++ leveledRecord.compact ++ []],
    ['\n'], rfl, rfl, ?_, rfl, by decide +kernel⟩
  have hseven : Json.readToDepth? (Json.maxDepth - 1) [' ', '7'] =
      some (.number (.integer 7 (by decide))) := rfl
  exact .record _ rfl rfl (.other hseven rfl (.record _ rfl rfl .nil))

theorem ofText?_breakRecord : Json.ofText? breakRecord.text = some breakRecord := by
  rw [RecordText.ofText?_text]
  rfl

theorem ofText?_leveledRecord : Json.ofText? leveledRecord.text = some leveledRecord := by
  rw [RecordText.ofText?_text]
  rfl

/-! ## The formats -/

/-- Records whose compact text is read back, and which are not nested too
deep for the items of an array, are read alike from a text that has them on
lines and from a text that has them in an array.  If data hold such
records, then what `filter` prints of them is printed unchanged when it is
filtered again by the same rule. -/
theorem formats_agree_and_refilter {records : List Json}
    (hobject : ∀ r ∈ records, r.isObject = true) (hdepth : ∀ r ∈ records, r.depth ≤ 126)
    (hreread : ∀ r ∈ records, Json.ofText? r.text = some r) :
    (∀ onLines inArray : String, RecordText.OnLines records onLines.toList →
      RecordText.InArray records inArray.toList →
      RecordText.read onLines = RecordText.read inArray ∧
      RecordText.read onLines = .ok records ∧ RecordText.read inArray = .ok records) ∧
    ∀ (surroundings again : Surroundings) (options : RuleOptions) (rule : String)
      (data printed : Option String), readRecords surroundings data = .ok records →
      again.file? rule = surroundings.file? rule →
      dataText again printed = .ok (outcome (filter surroundings options rule data)).2 →
      (outcome (filter again options rule printed)).2 =
          (outcome (filter surroundings options rule data)).2 ∧
        ∀ n, (outcome (filter surroundings options rule data)).1 = .ok n →
          (outcome (filter again options rule printed)).1 = .ok n := by
  constructor
  · intro onLines inArray hlines harray
    have hfirst := RecordText.read_onLines hlines hobject hreread
    have hsecond := RecordText.read_inArray harray hobject hdepth hreread
    exact ⟨hfirst.trans hsecond.symm, hfirst, hsecond⟩
  · intro surroundings again options rule data printed hrecords hrule hprinted
    exact filter_printed hrecords hobject hreread hrule hprinted

/-- Two records on lines and in an array, filtered for missing dates and
filtered again. -/
theorem formats_agree_and_refilter_samples :
    RecordText.read crlfLines = RecordText.read threeItems ∧
    RecordText.read threeItems = .ok [breakRecord, leveledRecord] ∧
    ∀ printed, printed =
        (outcome (filter (ruleAndData missingDateText crlfLines) {} "rule" none)).2 →
      (outcome (filter (ruleAndData missingDateText printed) {} "rule" none)).2 = printed := by
  have hobject : ∀ r ∈ [breakRecord, leveledRecord], r.isObject = true := by decide
  have hdepth : ∀ r ∈ [breakRecord, leveledRecord], r.depth ≤ 126 := by decide
  have hreread : ∀ r ∈ [breakRecord, leveledRecord], Json.ofText? r.text = some r :=
    List.forall_mem_cons.mpr ⟨ofText?_breakRecord,
      List.forall_mem_cons.mpr ⟨ofText?_leveledRecord, nofun⟩⟩
  obtain ⟨hformats, hagain⟩ := formats_agree_and_refilter hobject hdepth hreread
  obtain ⟨halike, hlines, hitems⟩ :=
    hformats crlfLines threeItems onLines_crlfLines inArray_threeItems
  refine ⟨halike, hitems, ?_⟩
  intro printed hprinted
  have hrecords : readRecords (ruleAndData missingDateText crlfLines) none =
      .ok [breakRecord, leveledRecord] := readRecords_eq_ok rfl hlines
  have hdata : dataText (ruleAndData missingDateText printed) none =
      .ok (outcome (filter (ruleAndData missingDateText crlfLines) {} "rule" none)).2 :=
    congrArg Except.ok hprinted
  have hsame := hagain (ruleAndData missingDateText crlfLines)
    (ruleAndData missingDateText printed) {} "rule" none none hrecords rfl hdata
  exact hsame.1.trans hprinted.symm

end RecordSieve.CommandLine
