/-
RecordSieve.Proofs.Session.Run — sessions over any run of operations.

A session keeps a tree, the options it was read under, and fields that
are worked out once and never again.  That these stay consistent is one
invariant, `IsReading`: the tree is the reading of the definition under
the options, and the fields are the tree's.  A step preserves it
(`perform_isReading`) because options cannot change the fields that a
definition names, and so does a run (`run_isReading`).

So after any run a session is the one started afresh under the options
last taken, apart from tracing; and tracing shows only in the traces of
explanations (`answers_withTracing`).
-/
import RecordSieve.Proofs.Rule.Definition
import RecordSieve.Proofs.Rule.Reading

namespace RecordSieve.Session

/-! ## Operations -/

/-- What is asked of a session. -/
inductive Operation where
  | evaluate (record : Json)
  | explain (record : Json)
  | filter (records : List Json)
  | filterArray (data : Json)
  | trace
  | setOptions (options : RuleOptions)

/-- What a session answers. -/
inductive Answer where
  | verdict (outcome : Except Abort Bool)
  | explanation (outcome : Except Abort Explanation)
  | kept (outcome : Except Abort (List Json))
  | tracing
  | optionsSet (outcome : Attempt RuleError Unit)

/-- The answer without the trace of an explanation. -/
def Answer.untraced : Answer → Answer
  | explanation outcome => explanation (outcome.map fun e => { e with trace := [] })
  | answer => answer

/-- An operation with its answer, and the session after it. -/
structure Step where
  operation : Operation
  answer : Answer
  session : Session

/-- Performs one operation.  Options that are refused, or whose reading
breaks off, leave the session as it was. -/
def perform (s : Session) : Operation → Step
  | .evaluate record => ⟨.evaluate record, .verdict (s.evaluate record), s⟩
  | .explain record => ⟨.explain record, .explanation (s.explain record), s⟩
  | .filter records => ⟨.filter records, .kept (s.filter records), s⟩
  | .filterArray data => ⟨.filterArray data, .kept (s.filterArray data), s⟩
  | .trace => ⟨.trace, .tracing, s.traced⟩
  | .setOptions options =>
    match s.withOptions options with
    | .ok s' => ⟨.setOptions options, .optionsSet (.ok ()), s'⟩
    | .error failure => ⟨.setOptions options, .optionsSet (.error failure), s⟩

/-- The steps of a run, and the session after it. -/
structure Run where
  steps : List Step
  session : Session

/-- Performs operations one after the other. -/
def run (s : Session) : List Operation → Run
  | [] => ⟨[], s⟩
  | op :: ops =>
    let step := s.perform op
    let rest := step.session.run ops
    ⟨step :: rest.steps, rest.session⟩

/-- The answers of a run. -/
def Run.answers (r : Run) : List Answer := r.steps.map Step.answer

/-- The options in use after a step: those that it set, if it set any. -/
def Step.optionsAfter (options : RuleOptions) (step : Step) : RuleOptions :=
  match step.operation, step.answer with
  | .setOptions chosen, .optionsSet (.ok _) => chosen
  | _, _ => options

/-- The options last set in the steps of a run that began under `options`. -/
def lastOptions (options : RuleOptions) (steps : List Step) : RuleOptions :=
  steps.foldl Step.optionsAfter options

/-! ## The invariant -/

variable {definition : Json} {options : RuleOptions}

/-- The session holds what a definition is read as under options. -/
structure IsReading (definition : Json) (options : RuleOptions) (s : Session) : Prop where
  sameDefinition : s.definition = definition
  sameOptions : s.options = options
  tree : Rule.ofJson options definition = .ok s.root
  fields : s.requiredFields = s.root.fields

theorem isReading_of_start {s : Session} (h : start definition options = .ok s) :
    IsReading definition options s ∧ s.tracing = false := by
  obtain ⟨root, hroot, hs⟩ := bind_eq_ok_iff.mp h
  cases hs
  exact ⟨⟨rfl, rfl, hroot, rfl⟩, rfl⟩

/-- Apart from tracing, a definition is read as one session only. -/
theorem IsReading.start_eq {s : Session} (h : IsReading definition options s) :
    start definition options = .ok { s with tracing := false } := by
  obtain ⟨rfl, rfl, htree, hfields⟩ := h
  rw [start, htree, hfields]
  rfl

theorem IsReading.traced {s : Session} (h : IsReading definition options s) :
    IsReading definition options s.traced :=
  ⟨h.sameDefinition, h.sameOptions, h.tree, h.fields⟩

/-- The fields are not worked out again: they are those of any reading. -/
theorem IsReading.withOptions {s s' : Session} {chosen : RuleOptions}
    (h : IsReading definition options s) (hs' : s.withOptions chosen = .ok s') :
    IsReading definition chosen s' ∧ s'.tracing = s.tracing := by
  obtain ⟨root, hroot, hs'⟩ := bind_eq_ok_iff.mp hs'
  cases hs'
  rw [h.sameDefinition] at hroot
  -- The new tree is another reading of the definition that the old one was read from.
  have hfields : s.requiredFields = root.fields :=
    h.fields.trans (Rule.fields_ofJson h.tree hroot)
  exact ⟨⟨h.sameDefinition, rfl, hroot, hfields⟩, rfl⟩

/-- Options under which the definition is read as before are taken, and
change nothing else. -/
theorem IsReading.withOptions_eq {s : Session} {chosen : RuleOptions}
    (h : IsReading definition options s)
    (hsame : Rule.ofJson options definition = Rule.ofJson chosen definition) :
    s.withOptions chosen = .ok { s with options := chosen } := by
  have htree : Rule.ofJson chosen s.definition = .ok s.root := by
    rw [h.sameDefinition, ← hsame, h.tree]
  rw [Session.withOptions, htree]
  rfl

theorem perform_isReading {s : Session} (h : IsReading definition options s) (op : Operation) :
    IsReading definition ((s.perform op).optionsAfter options) (s.perform op).session := by
  cases op with
  | evaluate record => exact h
  | explain record => exact h
  | filter records => exact h
  | filterArray data => exact h
  | trace => exact h.traced
  | setOptions chosen =>
    rw [perform]
    cases hw : s.withOptions chosen with
    | ok s' => exact (h.withOptions hw).1
    | error failure => exact h

theorem run_isReading {s : Session} (h : IsReading definition options s) (ops : List Operation) :
    IsReading definition (lastOptions options (s.run ops).steps) (s.run ops).session := by
  -- The options change along the run, so the invariant is kept for all of them.
  induction ops generalizing s options with
  | nil => exact h
  | cons op ops ih => exact ih (perform_isReading h op)

/-! ## Tracing -/

theorem perform_tracing {s : Session} (op : Operation) :
    (s.perform op).session.tracing = true ↔ s.tracing = true ∨ op = .trace := by
  cases op with
  | trace => simp [perform, traced]
  | setOptions chosen =>
    rw [perform]
    cases hw : s.withOptions chosen with
    | error failure => simp
    | ok s' =>
      obtain ⟨root, -, hs'⟩ := bind_eq_ok_iff.mp hw
      cases hs'
      simp
  | _ => simp [perform]

theorem run_tracing {s : Session} (ops : List Operation) :
    (s.run ops).session.tracing = true ↔ s.tracing = true ∨ .trace ∈ ops := by
  induction ops generalizing s with
  | nil => simp [run]
  | cons op ops ih =>
    rw [run, ih, perform_tracing, List.mem_cons, or_assoc, @eq_comm _ op]

/-- The session with tracing on or off. -/
def withTracing (s : Session) (tracing : Bool) : Session := { s with tracing := tracing }

theorem explain_withTracing (s : Session) (tracing : Bool) (record : Json) :
    (Answer.explanation ((s.withTracing tracing).explain record)).untraced =
      (Answer.explanation (s.explain record)).untraced := by
  rw [Answer.untraced, Answer.untraced, withTracing, explain, explain, Rule.explain_eq_map tracing,
    Rule.explain_eq_map s.tracing]
  cases s.root.explain s.options true record <;> rfl

theorem withOptions_withTracing (s : Session) (tracing : Bool) (chosen : RuleOptions) :
    (s.withTracing tracing).withOptions chosen =
      (s.withOptions chosen).map (·.withTracing tracing) := by
  rw [Session.withOptions, Session.withOptions]
  cases hroot : Rule.ofJson chosen s.definition <;> simp [withTracing, hroot] <;> rfl

/-- A step answers alike with tracing on and off, apart from traces, and
the sessions after it differ in tracing at most. -/
theorem perform_withTracing (s : Session) (tracing : Bool) (op : Operation) :
    ((s.withTracing tracing).perform op).answer.untraced = (s.perform op).answer.untraced ∧
    ∃ tracing', ((s.withTracing tracing).perform op).session =
      (s.perform op).session.withTracing tracing' := by
  cases op with
  | evaluate record => exact ⟨rfl, tracing, rfl⟩
  | explain record => exact ⟨explain_withTracing s tracing record, tracing, rfl⟩
  | filter records => exact ⟨rfl, tracing, rfl⟩
  | filterArray data => exact ⟨rfl, tracing, rfl⟩
  | trace => exact ⟨rfl, true, rfl⟩
  | setOptions chosen =>
    rw [perform, perform, withOptions_withTracing]
    cases s.withOptions chosen with
    | ok s' => exact ⟨rfl, tracing, rfl⟩
    | error failure => exact ⟨rfl, tracing, rfl⟩

theorem answers_withTracing (s : Session) (tracing : Bool) (ops : List Operation) :
    ((s.withTracing tracing).run ops).answers.map Answer.untraced =
      (s.run ops).answers.map Answer.untraced := by
  induction ops generalizing s tracing with
  | nil => rfl
  | cons op ops ih =>
    obtain ⟨hanswer, tracing', hsession⟩ := perform_withTracing s tracing op
    have hrest := ih (s.perform op).session tracing'
    rw [← hsession] at hrest
    simp only [Run.answers, run, List.map_cons, List.map_map] at hrest ⊢
    rw [hanswer, hrest]

/-! ## Runs -/

theorem session_of_optionsSet_error {s : Session} {chosen : RuleOptions}
    {failure : Failure RuleError}
    (h : (s.perform (.setOptions chosen)).answer = .optionsSet (.error failure)) :
    (s.perform (.setOptions chosen)).session = s := by
  rw [perform] at h ⊢
  cases hw : s.withOptions chosen with
  | ok s' => rw [hw] at h; cases h
  | error failure' => rfl

/-- After any run a session is the one started afresh under the options
last set, with tracing on if it was asked for.  It answers any further
run as the fresh one does, and options that fail leave it as it is. -/
theorem run_eq_start {s₀ s : Session} {ops : List Operation} {steps : List Step}
    (h : start definition options = .ok s₀) (hrun : s₀.run ops = ⟨steps, s⟩) :
    ∃ fresh, start definition (lastOptions options steps) = .ok fresh ∧
      s = fresh.withTracing s.tracing ∧ (s.tracing = true ↔ .trace ∈ ops) ∧
      (.trace ∉ ops → s = fresh) ∧
      Rule.ofJson (lastOptions options steps) definition = .ok s.root ∧
      s.options = lastOptions options steps ∧ s.requiredFields = s.root.fields ∧
      (∀ later, (s.run later).answers.map Answer.untraced =
        (fresh.run later).answers.map Answer.untraced) ∧
      ∀ chosen failure, (s.perform (.setOptions chosen)).answer = .optionsSet (.error failure) →
        (s.perform (.setOptions chosen)).session = s := by
  obtain ⟨hstart, hoff⟩ := isReading_of_start h
  have hreading : IsReading definition (lastOptions options steps) s := by
    have := run_isReading hstart ops
    rwa [hrun] at this
  have htracing : s.tracing = true ↔ .trace ∈ ops := by
    have := @run_tracing s₀ ops
    rwa [hrun, hoff, or_iff_right Bool.false_ne_true] at this
  refine ⟨s.withTracing false, hreading.start_eq, rfl, htracing, ?_, hreading.tree,
    hreading.sameOptions, hreading.fields, ?_, ?_⟩
  · intro hops
    have hfalse : s.tracing = false := Bool.eq_false_iff.mpr (mt htracing.mp hops)
    rw [withTracing, ← hfalse]
  · intro later
    exact (answers_withTracing s false later).symm
  · intro chosen failure hanswer
    exact session_of_optionsSet_error hanswer

/-- A definition that is read where the day comes first, and refused
where the month does. -/
def dayFirst : Json :=
  .ofMembers [("condition", .string "and"), ("rules", .array
    [.ofMembers [("field", .string "due"), ("type", .string "date"), ("operator", .string "less"),
      ("value", .string "13.06.2019")],
     .ofMembers [("field", .string "state"), ("type", .string "string"),
      ("operator", .string "is_not_null")]])]

def british : RuleOptions := { locale := .ofTag "en-GB" }

def german : RuleOptions := { locale := .ofTag "de" }

def american : RuleOptions := { locale := .ofTag "en-US" }

theorem run_eq_start_dayFirst :
    ∃ s₀ fresh, start dayFirst british = .ok s₀ ∧ start dayFirst german = .ok fresh ∧
      (s₀.run [.setOptions german, .trace, .setOptions american]).session =
        fresh.withTracing true := by
  have hlast : (start dayFirst british).map (fun s =>
      lastOptions british (s.run [.setOptions german, .trace, .setOptions american]).steps) =
        .ok german := by
    decide +kernel
  cases h : start dayFirst british with
  | error failure => rw [h] at hlast; cases hlast
  | ok s₀ =>
    rw [h] at hlast
    have hlast : lastOptions british
        (s₀.run [.setOptions german, .trace, .setOptions american]).steps = german :=
      Except.ok.inj hlast
    cases hrun : s₀.run [.setOptions german, .trace, .setOptions american] with
    | mk steps s =>
      rw [hrun] at hlast
      obtain ⟨fresh, hfresh, hsession, htracing, -⟩ := run_eq_start h hrun
      rw [hlast] at hfresh
      rw [htracing.mpr (by simp)] at hsession
      refine ⟨s₀, fresh, rfl, hfresh, ?_⟩
      rw [hrun]
      exact hsession

end RecordSieve.Session
