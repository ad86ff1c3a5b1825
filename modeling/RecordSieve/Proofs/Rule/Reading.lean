/-
RecordSieve.Proofs.Rule.Reading — what a rule means, and that evaluation
and explanation both compute it.

`Rule.reading` is the meaning: every child of a condition is read, the
values are joined by the connective, and a negated condition inverts the
result.  It stops nowhere and knows no order.  Evaluation and the walk
behind an explanation stop at the first decisive child; that this does
not change the value is `reading_of_evaluate`, and that the walk has the
value of evaluation is `walk_matched`.

Tracing only decides which steps of a walk are kept
(`walk_eq_map_keepSteps`), so it cannot touch what the walk finds.
-/
import RecordSieve.Proofs.Outcome
import RecordSieve.Session

namespace RecordSieve

/-! ## The strict reading -/

/-- The value of a condition whose children have these values. -/
def Connective.join : Connective → List Bool → Bool
  | and, values => values.all id
  | or, values => values.any id

@[simp] theorem Connective.join_nil (c : Connective) : c.join [] = !c.decisive := by
  cases c <;> rfl

theorem Connective.join_cons (c : Connective) (b : Bool) (values : List Bool) :
    c.join (b :: values) = if b == c.decisive then c.decisive else c.join values := by
  cases c <;> cases b <;> simp [join, decisive]

namespace Rule

mutual

/-- The value of a rule whose field rules have these values.  Every child
is read. -/
def reading (value : FieldRule → Bool) : Rule → Bool
  | field r => value r
  | condition connective negated children => connective.join (readings value children) != negated

/-- The values of several rules. -/
def readings (value : FieldRule → Bool) : List Rule → List Bool
  | [] => []
  | rule :: rules => reading value rule :: readings value rules

end

mutual

/-- The field rules of a rule, from left to right. -/
def leaves : Rule → List FieldRule
  | field r => [r]
  | condition _ _ children => leavesAll children

/-- The field rules of several rules. -/
def leavesAll : List Rule → List FieldRule
  | [] => []
  | rule :: rules => leaves rule ++ leavesAll rules

end

end Rule

/-- The answer of a field rule for a record, and a given one where
reading the record breaks off. -/
def FieldRule.verdict (options : RuleOptions) (record : Json) (otherwise : FieldRule → Bool)
    (r : FieldRule) : Bool :=
  match r.evaluate options record with
  | .ok b => b
  | .error _ => otherwise r

namespace Rule

variable {options : RuleOptions} {record : Json} {value : FieldRule → Bool}

/-! ## Evaluation -/

theorem evaluate_condition (connective : Connective) (negated : Bool) (children : List Rule) :
    evaluate options record (condition connective negated children) =
      (evaluateChildren options record connective children).map (· != negated) := by
  rw [evaluate]
  cases evaluateChildren options record connective children <;> rfl

theorem evaluateChildren_cons_ok {connective : Connective} {child : Rule} {children : List Rule}
    {b : Bool} (h : evaluate options record child = .ok b) :
    evaluateChildren options record connective (child :: children) =
      if b == connective.decisive then .ok connective.decisive
      else evaluateChildren options record connective children := by
  rw [evaluateChildren, h]
  rfl

theorem evaluateChildren_cons_error {connective : Connective} {child : Rule} {children : List Rule}
    {abort : Abort} (h : evaluate options record child = .error abort) :
    evaluateChildren options record connective (child :: children) = .error abort := by
  rw [evaluateChildren, h]
  rfl

mutual

/-- An answer of evaluation is the strict reading of the field rules' answers. -/
theorem reading_of_evaluate (hvalue : ∀ r b, r.evaluate options record = .ok b → value r = b) :
    ∀ (rule : Rule) (b : Bool), evaluate options record rule = .ok b → reading value rule = b
  | field r, b, h => by
    rw [reading]
    exact hvalue r b (by rwa [evaluate] at h)
  | condition connective negated children, b, h => by
    rw [evaluate_condition] at h
    cases hc : evaluateChildren options record connective children with
    | error abort => rw [hc] at h; cases h
    | ok v =>
      rw [hc] at h
      cases h
      rw [reading, join_readings_of_evaluateChildren hvalue connective children v hc]

theorem join_readings_of_evaluateChildren
    (hvalue : ∀ r b, r.evaluate options record = .ok b → value r = b) (connective : Connective) :
    ∀ (children : List Rule) (b : Bool),
      evaluateChildren options record connective children = .ok b →
        connective.join (readings value children) = b
  | [], b, h => by
    rw [evaluateChildren] at h
    cases h
    rw [readings, Connective.join_nil]
  | child :: children, b, h => by
    cases hc : evaluate options record child with
    | error abort => rw [evaluateChildren_cons_error hc] at h; cases h
    | ok v =>
      rw [evaluateChildren_cons_ok hc] at h
      rw [readings, Connective.join_cons, reading_of_evaluate hvalue child v hc]
      split at h
      · next hv => cases h; rw [if_pos hv]
      · next hv =>
        rw [if_neg hv]
        exact join_readings_of_evaluateChildren hvalue connective children b h

end

mutual

/-- If every field rule has an answer, so has the rule. -/
theorem exists_evaluate_of_leaves : ∀ rule : Rule,
    (∀ r ∈ rule.leaves, ∃ b, r.evaluate options record = .ok b) →
      ∃ b, evaluate options record rule = .ok b
  | field r, h => by
    obtain ⟨b, hb⟩ := h r (by simp [leaves])
    exact ⟨b, by rw [evaluate, hb]⟩
  | condition connective negated children, h => by
    rw [leaves] at h
    obtain ⟨b, hb⟩ := exists_evaluateChildren_of_leaves connective children h
    exact ⟨b != negated, by rw [evaluate_condition, hb]; rfl⟩

theorem exists_evaluateChildren_of_leaves (connective : Connective) : ∀ children : List Rule,
    (∀ r ∈ leavesAll children, ∃ b, r.evaluate options record = .ok b) →
      ∃ b, evaluateChildren options record connective children = .ok b
  | [], _ => ⟨!connective.decisive, by rw [evaluateChildren]⟩
  | child :: children, h => by
    simp only [leavesAll, List.mem_append] at h
    obtain ⟨b, hb⟩ := exists_evaluate_of_leaves child fun r hr => h r (Or.inl hr)
    obtain ⟨v, hv⟩ := exists_evaluateChildren_of_leaves connective children fun r hr =>
      h r (Or.inr hr)
    rw [evaluateChildren_cons_ok hb, hv]
    split
    · exact ⟨_, rfl⟩
    · exact ⟨v, rfl⟩

end

/-! ## The walk -/

theorem walkField_matched (tracing : Bool) (path : NodePath) (r : FieldRule) :
    (walkField options record tracing path r).map Walk.matched = r.evaluate options record := by
  rw [walkField]
  cases r.evaluate options record <;> rfl

mutual

/-- A walk comes to the answer of evaluation, and breaks off where
evaluation does. -/
theorem walk_matched (tracing : Bool) : ∀ (path : NodePath) (rule : Rule),
    (walk options record tracing path rule).map Walk.matched = evaluate options record rule
  | path, field r => by rw [walk, evaluate, walkField_matched]
  | path, condition connective negated children => by
    rw [walk, evaluate_condition, ← walkChildren_matched tracing path connective 0 children]
    cases walkChildren options record tracing path connective 0 children <;> rfl

theorem walkChildren_matched (tracing : Bool) (path : NodePath) (connective : Connective) :
    ∀ (index : Nat) (children : List Rule),
      (walkChildren options record tracing path connective index children).map Walk.matched =
        evaluateChildren options record connective children
  | index, [] => by rw [walkChildren, evaluateChildren]; rfl
  | index, child :: children => by
    have hchild := walk_matched tracing (path ++ [index]) child
    have hrest := walkChildren_matched tracing path connective (index + 1) children
    rw [walkChildren]
    cases hw : walk options record tracing (path ++ [index]) child with
    | error abort =>
      rw [hw] at hchild
      rw [evaluateChildren_cons_error hchild.symm]
      rfl
    | ok w =>
      rw [hw] at hchild
      rw [evaluateChildren_cons_ok hchild.symm, ← hrest]
      -- A decisive child ends the walk where it ends evaluation.
      by_cases hd : w.matched == connective.decisive
      · simp only [bind, Except.bind, hd, if_true, pure, Except.pure, Except.map]
        rw [beq_iff_eq.mp hd]
      · simp only [bind, Except.bind, hd]
        cases walkChildren options record tracing path connective (index + 1) children <;> rfl

end

/-! ## Tracing -/

theorem traced_append (tracing : Bool) (as bs : List TraceStep) :
    traced tracing (as ++ bs) = traced tracing as ++ traced tracing bs := by
  cases tracing <;> rfl

@[simp] theorem traced_true (steps : List TraceStep) : traced true steps = steps := rfl

theorem traced_ite (tracing : Bool) (p : Prop) [Decidable p] (as bs : List TraceStep) :
    traced tracing (if p then as else bs) = if p then traced tracing as else traced tracing bs := by
  split <;> rfl

end Rule

/-- A walk with its steps kept only if tracing is on. -/
def Walk.keepSteps (tracing : Bool) (w : Walk) : Walk :=
  { w with steps := Rule.traced tracing w.steps }

namespace Rule

mutual

/-- A walk is the traced walk with its steps kept or dropped. -/
theorem walk_eq_map_keepSteps (tracing : Bool) : ∀ (path : NodePath) (rule : Rule),
    walk options record tracing path rule =
      (walk options record true path rule).map (Walk.keepSteps tracing)
  | path, field r => by
    rw [walk, walk, walkField, walkField]
    cases r.evaluate options record <;> rfl
  | path, condition connective negated children => by
    rw [walk, walk, walkChildren_eq_map_keepSteps tracing path connective 0 children]
    cases walkChildren options record true path connective 0 children with
    | error abort => rfl
    | ok w =>
      simp only [bind, Except.bind, Except.map, pure, Except.pure, Walk.keepSteps, traced_append,
        traced_ite, traced_true]
      cases tracing <;> simp [traced]

theorem walkChildren_eq_map_keepSteps (tracing : Bool) (path : NodePath) (connective : Connective) :
    ∀ (index : Nat) (children : List Rule),
      walkChildren options record tracing path connective index children =
        (walkChildren options record true path connective index children).map
          (Walk.keepSteps tracing)
  | index, [] => by
    rw [walkChildren, walkChildren]
    cases tracing <;> rfl
  | index, child :: children => by
    rw [walkChildren, walkChildren, walk_eq_map_keepSteps tracing (path ++ [index]) child,
      walkChildren_eq_map_keepSteps tracing path connective (index + 1) children]
    cases walk options record true (path ++ [index]) child with
    | error abort => rfl
    | ok w =>
      by_cases hd : w.matched == connective.decisive
      · simp [bind, Except.bind, Except.map, pure, Except.pure, Walk.keepSteps, traced_append, hd]
      · cases walkChildren options record true path connective (index + 1) children with
        | error abort => simp [bind, Except.bind, Except.map, Walk.keepSteps, hd]
        | ok rest =>
          simp [bind, Except.bind, Except.map, pure, Except.pure, Walk.keepSteps, traced_append, hd]

end

/-! ## Explanations -/

theorem explain_matched (tracing : Bool) (rule : Rule) :
    (rule.explain options tracing record).map Explanation.matched =
      rule.evaluate options record := by
  rw [← walk_matched tracing [] rule, explain]
  cases walk options record tracing [] rule <;> rfl

/-- An explanation is the traced one with its trace kept or emptied. -/
theorem explain_eq_map (tracing : Bool) (rule : Rule) :
    rule.explain options tracing record =
      (rule.explain options true record).map fun e =>
        { e with trace := if tracing then e.trace else [] } := by
  rw [explain, explain, walk_eq_map_keepSteps tracing]
  cases walk options record true [] rule with
  | error abort => rfl
  | ok w => cases tracing <;> rfl

end Rule

/-! ## Sessions -/

namespace Session

/-- Explanation and evaluation agree, on the value and on where reading
breaks off.  Their value is the strict reading, whatever stands in for
the children that were not read because they would break off; if none
would, the strict reading is their value.  Tracing changes only the trace. -/
theorem explain_agrees_with_evaluate (s : Session) (record : Json) (otherwise : FieldRule → Bool) :
    (s.explain record).map Explanation.matched = s.evaluate record ∧
    (∀ b, s.evaluate record = .ok b →
      s.root.reading (FieldRule.verdict s.options record otherwise) = b) ∧
    ((∀ r ∈ s.root.leaves, ∃ b, r.evaluate s.options record = .ok b) →
      s.evaluate record = .ok (s.root.reading (FieldRule.verdict s.options record otherwise))) ∧
    (∀ tracing, (Session.explain { s with tracing := tracing } record).map
        (fun e => (e.matched, e.conditions)) =
      (s.explain record).map fun e => (e.matched, e.conditions)) ∧
    (s.tracing = false → ∀ e, s.explain record = .ok e → e.trace = []) := by
  have hreading : ∀ b, s.evaluate record = .ok b →
      s.root.reading (FieldRule.verdict s.options record otherwise) = b :=
    Rule.reading_of_evaluate (fun r b hr => by rw [FieldRule.verdict, hr]) s.root
  refine ⟨Rule.explain_matched s.tracing s.root, hreading, fun hleaves => ?_, fun tracing => ?_,
    fun htracing e he => ?_⟩
  · obtain ⟨b, hb⟩ := Rule.exists_evaluate_of_leaves s.root hleaves
    rw [hreading b hb]
    exact hb
  · rw [explain, explain, Rule.explain_eq_map tracing, Rule.explain_eq_map s.tracing]
    cases s.root.explain s.options true record <;> rfl
  · rw [explain, htracing, Rule.explain_eq_map] at he
    cases hx : s.root.explain s.options true record with
    | error abort => rw [hx] at he; cases he
    | ok x => rw [hx] at he; cases he; rfl

/-- NOT (state Equal "open" OR (count LessOrEqual 3)). -/
def sample : Session where
  definition := .null
  root := .condition .or true
    [.field ⟨"state", .string, .equal, false, some (.string "open"), [some (.string "open")]⟩,
     .condition .and false
      [.field ⟨"count", .integer, .greater, true, some (.string "3"), [some (.integer 3)]⟩]]
  options := {}
  requiredFields := ["count", "state"]
  tracing := false

def sampleRecord : Json := .ofMembers [("state", .string "shut"), ("count", .string "7")]

theorem explain_agrees_with_evaluate_sample :
    sample.evaluate sampleRecord = .ok true ∧
    (sample.explain sampleRecord).map Explanation.matched = .ok true ∧
    sample.root.reading (FieldRule.verdict {} sampleRecord fun _ => false) = true ∧
    (∀ r ∈ sample.root.leaves, ∃ b, r.evaluate {} sampleRecord = .ok b) ∧
    ∃ e, sample.explain sampleRecord = .ok e ∧ e.trace = [] := by
  obtain ⟨hmatched, hreading, hstrict, -, htrace⟩ :=
    explain_agrees_with_evaluate sample sampleRecord fun _ => false
  have hleaves : ∀ r ∈ sample.root.leaves, ∃ b, r.evaluate {} sampleRecord = .ok b := by
    simp only [sample, Rule.leaves, Rule.leavesAll, List.append_nil, List.cons_append,
      List.nil_append, List.forall_mem_cons]
    exact ⟨⟨false, by decide +kernel⟩, ⟨false, by decide +kernel⟩, by simp⟩
  have hvalue : sample.evaluate sampleRecord = .ok true := by decide +kernel
  have hexplain : sample.explain sampleRecord = .ok ⟨true, [], []⟩ := by decide +kernel
  exact ⟨(hstrict hleaves).trans (by rw [hreading true hvalue]), hmatched.trans hvalue,
    hreading true hvalue, hleaves, _, hexplain, htrace rfl _ hexplain⟩

end Session

end RecordSieve
