/-
RecordSieve.Proofs.Session.Report — an explanation reports the walk.

`walk_reports` says what a walk notes and in which order; here its notes
become the lines of an explanation.  They are told apart as lines too: two
equal ones would be about one node, and what a node notes has one line
for each of its steps (`Notes.eq_of_text_eq`).
-/
import Mathlib.Data.List.Nodup
import RecordSieve.Proofs.Rule.NodePath
import RecordSieve.Proofs.Rule.Visits

namespace RecordSieve

variable {options : RuleOptions} {record : Json}

namespace Rule

variable {rule node : Rule} {path : NodePath}

theorem Notes.path_eq {step : TraceStep} (h : Notes options record path node step) :
    step.path = path := by
  cases h <;> rfl

/-- What a node notes can be told apart by its lines. -/
theorem Notes.eq_of_text_eq {a b : TraceStep} (ha : Notes options record path node a)
    (hb : Notes options record path node b) (h : a.text = b.text) : a = b := by
  have hletters := (TraceStep.eq_of_text_eq h).2
  cases ha with
  | test result =>
    cases hb with
    | test result' =>
      rw [result] at result'
      cases result'
      rfl
  | @enter connective =>
    cases hb with
    | enter => rfl
    | decide => cases connective <;> simp [TraceStep.letter?] at hletters
    | negate => simp [TraceStep.letter?] at hletters
  | @decide connective _ _ _ decided =>
    cases hb with
    | enter => cases connective <;> simp [TraceStep.letter?] at hletters
    | decide decided' => rw [decided.unique decided']
    | negate => cases connective <;> simp [TraceStep.letter?] at hletters
  | @negate connective _ _ result =>
    cases hb with
    | enter => simp [TraceStep.letter?] at hletters
    | decide => cases connective <;> simp [TraceStep.letter?] at hletters
    | negate result' =>
      rw [result] at result'
      cases result'
      rfl

/-- What breaks off at a visited node breaks off at the root. -/
theorem Visited.breaksOff (hvisited : Visited options record rule path node) :
    BreaksOff options record node → BreaksOff options record rule := by
  induction hvisited with
  | root => exact id
  | child _ hbefore ih => exact fun h => ih (.condition hbefore h)

/-- A rule breaks off exactly if a field rule does that is visited. -/
theorem breaksOff_iff_visited : BreaksOff options record rule ↔
    ∃ path r, Visited options record rule path (field r) ∧ r.BreaksOff options record := by
  constructor
  · intro h
    induction h with
    | field h => exact ⟨[], _, .root, h⟩
    | condition hbefore _ ih =>
      obtain ⟨path, r, hvisited, hr⟩ := ih
      exact ⟨_, r, (Visited.root.child hbefore).append hvisited, hr⟩
  · rintro ⟨path, r, hvisited, hr⟩
    exact hvisited.breaksOff (.field hr)

end Rule

open Rule

/-- An explanation, from the walk with all of its steps. -/
theorem Rule.explain_eq_ok {tracing : Bool} {rule : Rule} {e : Explanation}
    (h : rule.explain options tracing record = .ok e) :
    ∃ w : Walk, w.Reports (Noted options record [] rule) ∧ e.conditions = w.found.map Match.text ∧
      e.trace = if tracing then w.steps.map TraceStep.text else [] := by
  rw [explain, walk_eq_map_keepSteps] at h
  cases hwalk : walk options record true [] rule with
  | error abort =>
    rw [hwalk] at h
    cases h
  | ok w =>
    rw [hwalk] at h
    cases h
    refine ⟨w, walk_reports [] rule w hwalk, rfl, ?_⟩
    cases tracing <;> rfl

/-- What is noted from the root on is what its visited nodes note. -/
theorem Rule.noted_root_iff {rule : Rule} {step : TraceStep} :
    Noted options record [] rule step ↔
      ∃ path node, Visited options record rule path node ∧ Notes options record path node step := by
  simp only [Noted, List.nil_append]

/-- A find is a step that found its field rule to hold. -/
theorem TraceStep.match?_eq_some_iff {step : TraceStep} {m : Match} :
    step.match? = some m ↔ step = .test m.path m.rule true := by
  cases m
  cases step with
  | test path rule matched => cases matched <;> simp [match?]
  | _ => simp [match?]

/-- Items in the order of their places differ. -/
theorem nodup_of_order {α β : Type} [LT β] [@Std.Irrefl β (· < ·)] {place : α → List β}
    {items : List α} (h : items.Pairwise fun a b => place a < place b) : items.Nodup :=
  h.imp fun {a b} hlt heq => by
    rw [heq] at hlt
    exact List.lt_irrefl _ hlt

/-- Paths stand as the places made of them do. -/
theorem NodePath.lt_of_front_lt {path path' : NodePath} (h : path.front < path'.front) :
    path < path' := by
  induction path generalizing path' with
  | nil =>
    cases path' with
    | nil => cases h
    | cons index' path' => exact .nil
  | cons index path ih =>
    cases path' with
    | nil => cases h
    | cons index' path' =>
      rcases List.cons_lt_cons_iff.mp h with hindex | ⟨hindex, hpath⟩
      · exact .rel (WithTop.coe_lt_coe.mp hindex)
      · rw [WithTop.coe_injective hindex]
        exact .cons (ih hpath)

section

variable {rule : Rule} {w : Walk}

theorem Walk.Reports.mem_found_iff (reports : w.Reports (Noted options record [] rule)) {m : Match} :
    m ∈ w.found ↔ Visited options record rule m.path (.field m.rule) ∧
      m.rule.evaluate options record = .ok true := by
  rw [reports.found, List.mem_filterMap]
  simp only [TraceStep.match?_eq_some_iff, exists_eq_right, reports.steps, noted_root_iff]
  constructor
  · rintro ⟨path, node, hvisited, hnotes⟩
    cases hnotes with
    | test result => exact ⟨hvisited, result⟩
  · rintro ⟨hvisited, result⟩
    exact ⟨m.path, _, hvisited, .test result⟩

theorem Walk.Reports.found_order (reports : w.Reports (Noted options record [] rule)) :
    w.found.Pairwise (·.path < ·.path) := by
  rw [reports.found, List.pairwise_filterMap]
  refine reports.order.imp fun {a b} hab m hm m' hm' => ?_
  rw [TraceStep.match?_eq_some_iff.mp hm, TraceStep.match?_eq_some_iff.mp hm'] at hab
  exact NodePath.lt_of_front_lt hab

/-- The lines of a walk differ. -/
theorem Walk.Reports.nodup_trace (reports : w.Reports (Noted options record [] rule)) :
    (w.steps.map TraceStep.text).Nodup := by
  refine (nodup_of_order reports.order).map_on fun a ha b hb h => ?_
  obtain ⟨path, node, hvisited, hnotes⟩ := noted_root_iff.mp ((reports.steps a).mp ha)
  obtain ⟨path', node', hvisited', hnotes'⟩ := noted_root_iff.mp ((reports.steps b).mp hb)
  have hpath := (TraceStep.eq_of_text_eq h).1
  rw [hnotes.path_eq, hnotes'.path_eq] at hpath
  subst hpath
  cases hvisited.unique hvisited'
  exact hnotes.eq_of_text_eq hnotes' h

theorem Walk.Reports.nodup_conditions (reports : w.Reports (Noted options record [] rule)) :
    (w.found.map Match.text).Nodup := by
  refine (nodup_of_order reports.found_order).map_on fun a ha b hb h => ?_
  have hpath := Match.path_eq_of_text_eq h
  obtain ⟨hvisited, -⟩ := reports.mem_found_iff.mp ha
  obtain ⟨hvisited', -⟩ := reports.mem_found_iff.mp hb
  rw [hpath] at hvisited
  cases a
  cases b
  cases hvisited.unique hvisited'
  cases hpath
  rfl

end

namespace Session

/-- The explanation is what these finds and notes come to: the finds are
the visited field rules that hold, from left to right, and the notes those
of the visited nodes, in the order of their places; and no two lines are
equal. -/
structure Explains (s : Session) (record : Json) (e : Explanation) (found : List Match)
    (steps : List TraceStep) : Prop where
  matched : s.evaluate record = .ok e.matched
  answered : ∀ path node, Visited s.options record s.root path node →
    ∃ b, node.evaluate s.options record = .ok b
  conditions : e.conditions = found.map Match.text
  mem_found : ∀ m, m ∈ found ↔ Visited s.options record s.root m.path (.field m.rule) ∧
    m.rule.evaluate s.options record = .ok true
  foundOrder : found.Pairwise (·.path < ·.path)
  trace : e.trace = if s.tracing then steps.map TraceStep.text else []
  mem_steps : ∀ step, step ∈ steps ↔ ∃ path node, Visited s.options record s.root path node ∧
    Notes s.options record path node step
  stepOrder : steps.Pairwise (·.place < ·.place)
  conditionsDiffer : e.conditions.Nodup
  traceDiffers : e.trace.Nodup

theorem exists_explains {s : Session} {e : Explanation} (h : s.explain record = .ok e) :
    ∃ found steps, s.Explains record e found steps := by
  have hvalue : s.evaluate record = .ok e.matched := by
    rw [evaluate, ← explain_matched s.tracing, ← explain, h]
    rfl
  have hroot : ¬ BreaksOff s.options record s.root := exists_evaluate_iff.mp ⟨_, hvalue⟩
  obtain ⟨w, reports, hconditions, htrace⟩ := Rule.explain_eq_ok h
  exact ⟨w.found, w.steps, {
    matched := hvalue
    answered := fun path node hvisited => exists_evaluate_iff.mpr (mt hvisited.breaksOff hroot)
    conditions := hconditions
    mem_found := fun m => reports.mem_found_iff
    foundOrder := reports.found_order
    trace := htrace
    mem_steps := fun step => (reports.steps step).trans noted_root_iff
    stepOrder := reports.order
    conditionsDiffer := hconditions ▸ reports.nodup_conditions
    traceDiffers := by
      rw [htrace]
      split
      · exact reports.nodup_trace
      · exact List.nodup_nil }⟩

/-- An explanation exists if every visited field rule has an answer, and
then its lines are what the visited nodes leave, each once and in order,
and no others; no path leads to two nodes, and no two paths have one text. -/
theorem explain_reports_visits (s : Session) (record : Json) :
    ((∃ e, s.explain record = .ok e) ↔
      ∀ path r, Visited s.options record s.root path (.field r) →
        ∃ b, r.evaluate s.options record = .ok b) ∧
    (∀ e, s.explain record = .ok e → ∃ found steps, s.Explains record e found steps) ∧
    (∀ path node node', Visited s.options record s.root path node →
      Visited s.options record s.root path node' → node = node') ∧
    Function.Injective NodePath.text := by
  refine ⟨?_, fun e he => exists_explains he, fun path node node' h h' => h.unique h',
    NodePath.text_injective⟩
  rw [exists_explain_iff, evaluate, exists_evaluate_iff, breaksOff_iff_visited]
  simp only [exists_ok_iff, Ne, FieldRule.evaluate_eq_error_iff, not_exists, not_and]

/-- A record that the first child of the sample decides. -/
def openRecord : Json := .ofMembers [("state", .string "open"), ("count", .string "7")]

theorem explain_reports_visits_sample : ∃ e, sample.traced.explain openRecord = .ok e ∧
    e.conditions = ["root.rules[0]: `state` Equal \"open\""] ∧
    e.trace = ["root: 开始评估 OR 组 (共 2 个子节点)",
      "root.rules[0]: String(`state`) Equal \"open\" => MATCHED", "root: OR 短路 - 子节点 0",
      "root: NOT 取反 true => false"] ∧
    e.trace.Nodup ∧ ∀ path node, Visited {} openRecord sample.root path node →
      ∃ b, node.evaluate {} openRecord = .ok b := by
  obtain ⟨-, hreports, -, -⟩ := explain_reports_visits sample.traced openRecord
  have hexplain : sample.traced.explain openRecord =
      .ok ⟨false, ["root.rules[0]: `state` Equal \"open\""],
        ["root: 开始评估 OR 组 (共 2 个子节点)",
          "root.rules[0]: String(`state`) Equal \"open\" => MATCHED", "root: OR 短路 - 子节点 0",
          "root: NOT 取反 true => false"]⟩ := by
    decide +kernel
  obtain ⟨found, steps, hexplains⟩ := hreports _ hexplain
  exact ⟨_, hexplain, rfl, rfl, hexplains.traceDiffers, hexplains.answered⟩

end Session

end RecordSieve
