/-
RecordSieve.Proofs.Rule.Visits — an explanation reports the nodes that
were visited, each once and in order, and no others.

Which nodes a walk visits is said without walking (`Visited`): the root,
and below a visited condition each child that no earlier one has made
needless.  What a visited node leaves in the trace is said of the node
alone (`Notes`).  A walk reports just that (`walk_reports`), from what it
adds at one node: `walk_condition_eq_ok`, `walkChildren_cons_eq_ok`.

The order of the steps is that of their places (`TraceStep.place`), which
are paths with a mark behind; so the steps of two children are never
mixed up, and nothing has to be said of the order in a subtree but that
its places have the path of its root in front (`Noted.place`).
-/
import RecordSieve.Proofs.Rule.BreakOff
import Mathlib.Data.List.Lex
import Mathlib.Order.WithBot

namespace RecordSieve

namespace Rule

variable {options : RuleOptions} {record : Json} {rule node : Rule} {path : NodePath}
  {connective : Connective} {negated : Bool} {children : List Rule} {step : TraceStep}

/-! ## Visits -/

/-- The node at a path is visited: it is the root, or a child of a visited
condition that none of the children before it has decided. -/
inductive Visited (options : RuleOptions) (record : Json) (rule : Rule) : NodePath → Rule → Prop
  | root : Visited options record rule [] rule
  | child {path : NodePath} {connective : Connective} {negated : Bool} {before after : List Rule}
      {child : Rule} :
      Visited options record rule path (condition connective negated (before ++ child :: after)) →
      (∀ x ∈ before, evaluate options record x = .ok (!connective.decisive)) →
      Visited options record rule (path ++ [before.length]) child

/-- A child of a condition that is reached, with its index. -/
def ReachesChild (options : RuleOptions) (record : Json) (connective : Connective)
    (children : List Rule) (index : Nat) (child : Rule) : Prop :=
  ∃ before after, children = before ++ child :: after ∧ before.length = index ∧
    ∀ x ∈ before, evaluate options record x = .ok (!connective.decisive)

/-- A child is the first, or it is reached among the others after a first
that does not decide. -/
theorem reachesChild_cons {first child : Rule} {index : Nat} :
    ReachesChild options record connective (first :: children) index child ↔
      index = 0 ∧ child = first ∨ ∃ i, index = i + 1 ∧
        evaluate options record first = .ok (!connective.decisive) ∧
        ReachesChild options record connective children i child := by
  constructor
  · rintro ⟨before, after, hchildren, rfl, hbefore⟩
    cases before with
    | nil =>
      obtain ⟨rfl, rfl⟩ := List.cons.inj hchildren
      exact .inl ⟨rfl, rfl⟩
    | cons x before =>
      obtain ⟨rfl, rfl⟩ := List.cons.inj hchildren
      obtain ⟨hfirst, hbefore⟩ := List.forall_mem_cons.mp hbefore
      exact .inr ⟨before.length, rfl, hfirst, before, after, rfl, rfl, hbefore⟩
  · rintro (⟨rfl, rfl⟩ | ⟨_, rfl, hfirst, before, after, rfl, rfl, hbefore⟩)
    · exact ⟨[], children, rfl, rfl, nofun⟩
    · exact ⟨first :: before, after, rfl, rfl, List.forall_mem_cons.mpr ⟨hfirst, hbefore⟩⟩

theorem not_reachesChild_nil {child : Rule} {index : Nat} :
    ¬ ReachesChild options record connective [] index child := by
  rintro ⟨before, after, h, -⟩
  simp at h

/-- One child stands at an index. -/
theorem ReachesChild.unique {child child' : Rule} {index : Nat}
    (h : ReachesChild options record connective children index child)
    (h' : ReachesChild options record connective children index child') : child = child' := by
  obtain ⟨before, after, rfl, rfl, -⟩ := h
  obtain ⟨before', after', heq, hlength, -⟩ := h'
  obtain ⟨-, heq⟩ := List.append_inj heq hlength.symm
  exact (List.cons.inj heq).1

/-- What is visited below a visited node is visited. -/
theorem Visited.append {below : NodePath} {inner : Rule}
    (h : Visited options record rule path node) (hbelow : Visited options record node below inner) :
    Visited options record rule (path ++ below) inner := by
  induction hbelow with
  | root => rwa [List.append_nil]
  | child _ hbefore ih =>
    rw [← List.append_assoc]
    exact ih.child hbefore

theorem visited_field_iff {r : FieldRule} :
    Visited options record (field r) path node ↔ path = [] ∧ node = field r := by
  constructor
  · intro h
    induction h with
    | root => exact ⟨rfl, rfl⟩
    | child _ _ ih => cases ih.2
  · rintro ⟨rfl, rfl⟩
    exact .root

/-- Below a condition nothing is visited but what is visited in its
children, as far as they are reached. -/
theorem visited_condition_iff :
    Visited options record (condition connective negated children) path node ↔
      path = [] ∧ node = condition connective negated children ∨
      ∃ index child below, ReachesChild options record connective children index child ∧
        Visited options record child below node ∧ path = index :: below := by
  constructor
  · intro h
    induction h with
    | root => exact .inl ⟨rfl, rfl⟩
    | @child path c n before after x hparent hbefore ih =>
      right
      rcases ih with ⟨rfl, hnode⟩ | ⟨index, child, below, hreached, hvisited, rfl⟩
      · cases hnode
        exact ⟨before.length, x, [], ⟨before, after, rfl, rfl, hbefore⟩, .root, rfl⟩
      · exact ⟨index, child, below ++ [before.length], hreached, hvisited.child hbefore, rfl⟩
  · rintro (⟨rfl, rfl⟩ | ⟨_, child, below, ⟨before, after, rfl, rfl, hbefore⟩, hvisited, rfl⟩)
    · exact .root
    · exact (Visited.root.child hbefore).append hvisited

/-- One node is visited at a path. -/
theorem Visited.unique {node' : Rule} (h : Visited options record rule path node)
    (h' : Visited options record rule path node') : node = node' := by
  induction path generalizing rule with
  | nil =>
    cases rule with
    | field r => rw [(visited_field_iff.mp h).2, (visited_field_iff.mp h').2]
    | condition connective negated children =>
      rw [visited_condition_iff] at h h'
      simp only [List.nil_eq, reduceCtorEq, and_false, exists_false, or_false, true_and] at h h'
      rw [h, h']
  | cons index path ih =>
    cases rule with
    | field r => cases (visited_field_iff.mp h).1
    | condition connective negated children =>
      rw [visited_condition_iff] at h h'
      rcases h with ⟨h, -⟩ | ⟨_, child, _, hreached, hvisited, h⟩
      · cases h
      rcases h' with ⟨h', -⟩ | ⟨_, child', _, hreached', hvisited', h'⟩
      · cases h'
      cases h
      cases h'
      cases hreached.unique hreached'
      exact ih hvisited hvisited'

/-! ## Notes -/

/-- A child decides its condition: it is reached and has the decisive value. -/
def DecidedBy (options : RuleOptions) (record : Json) (connective : Connective)
    (children : List Rule) (index : Nat) : Prop :=
  ∃ child, ReachesChild options record connective children index child ∧
    evaluate options record child = .ok connective.decisive

/-- What a visited node leaves in a trace: a field rule its result; a
condition that it was entered, which child decided it, and if it is
negated how that turned out. -/
inductive Notes (options : RuleOptions) (record : Json) (path : NodePath) : Rule → TraceStep → Prop
  | test {r : FieldRule} {b : Bool} (result : r.evaluate options record = .ok b) :
      Notes options record path (field r) (.test path r b)
  | enter {connective : Connective} {negated : Bool} {children : List Rule} :
      Notes options record path (condition connective negated children)
        (.enter path connective children.length)
  | decide {connective : Connective} {negated : Bool} {children : List Rule} {index : Nat}
      (decided : DecidedBy options record connective children index) :
      Notes options record path (condition connective negated children)
        (.decide path connective index)
  | negate {connective : Connective} {children : List Rule} {b : Bool}
      (result : evaluate options record (condition connective true children) = .ok b) :
      Notes options record path (condition connective true children) (.negate path (!b))

theorem not_decidedBy_nil {index : Nat} : ¬ DecidedBy options record connective [] index := by
  rintro ⟨child, hreached, -⟩
  exact not_reachesChild_nil hreached

/-- A first child that decides is the only one to do so. -/
theorem decidedBy_cons_of_decisive {child : Rule} {index : Nat}
    (h : evaluate options record child = .ok connective.decisive) :
    DecidedBy options record connective (child :: children) index ↔ index = 0 := by
  constructor
  · rintro ⟨x, hreached, -⟩
    rcases reachesChild_cons.mp hreached with ⟨hindex, -⟩ | ⟨i, -, hfirst, -⟩
    · exact hindex
    · rw [h] at hfirst
      simp at hfirst
  · rintro rfl
    exact ⟨child, reachesChild_cons.mpr (.inl ⟨rfl, rfl⟩), h⟩

/-- After a first child that does not decide, another one may. -/
theorem decidedBy_cons_of_not_decisive {child : Rule} {index : Nat}
    (h : evaluate options record child = .ok (!connective.decisive)) :
    DecidedBy options record connective (child :: children) index ↔
      ∃ i, index = i + 1 ∧ DecidedBy options record connective children i := by
  constructor
  · rintro ⟨x, hreached, hx⟩
    rcases reachesChild_cons.mp hreached with ⟨-, rfl⟩ | ⟨i, rfl, -, hreached⟩
    · rw [h] at hx
      simp at hx
    · exact ⟨i, rfl, x, hreached, hx⟩
  · rintro ⟨i, rfl, x, hreached, hx⟩
    exact ⟨x, reachesChild_cons.mpr (.inr ⟨i, rfl, h, hreached⟩), hx⟩

/-- One child decides a condition. -/
theorem DecidedBy.unique {i j : Nat} (hi : DecidedBy options record connective children i)
    (hj : DecidedBy options record connective children j) : i = j := by
  induction children generalizing i j with
  | nil => exact absurd hi not_decidedBy_nil
  | cons first children ih =>
    obtain ⟨child, hreached, hchild⟩ := hi
    rcases reachesChild_cons.mp hreached with ⟨rfl, rfl⟩ | ⟨i, rfl, hfirst, hreached⟩
    · exact ((decidedBy_cons_of_decisive hchild).mp hj).symm
    · obtain ⟨j, rfl, hrest⟩ := (decidedBy_cons_of_not_decisive hfirst).mp hj
      rw [ih ⟨child, hreached, hchild⟩ hrest]

/-- What is noted of a rule that stands at a path, and below it. -/
def Noted (options : RuleOptions) (record : Json) (path : NodePath) (rule : Rule)
    (step : TraceStep) : Prop :=
  ∃ below node, Visited options record rule below node ∧
    Notes options record (path ++ below) node step

/-- What is noted while children are walked from an index on: of those
that are reached, and of the one that decides. -/
def NotedAmong (options : RuleOptions) (record : Json) (path : NodePath) (connective : Connective)
    (index : Nat) (children : List Rule) (step : TraceStep) : Prop :=
  (∃ i child, ReachesChild options record connective children i child ∧
    Noted options record (path ++ [index + i]) child step) ∨
  ∃ i, DecidedBy options record connective children i ∧ step = .decide path connective (index + i)

theorem noted_field_iff {r : FieldRule} :
    Noted options record path (field r) step ↔
      ∃ b, r.evaluate options record = .ok b ∧ step = .test path r b := by
  constructor
  · rintro ⟨below, node, hvisited, hnotes⟩
    obtain ⟨rfl, rfl⟩ := visited_field_iff.mp hvisited
    rw [List.append_nil] at hnotes
    cases hnotes with
    | test result => exact ⟨_, result, rfl⟩
  · rintro ⟨b, hb, rfl⟩
    refine ⟨[], _, .root, ?_⟩
    rw [List.append_nil]
    exact .test hb

theorem noted_condition_iff :
    Noted options record path (condition connective negated children) step ↔
      step = .enter path connective children.length ∨
      NotedAmong options record path connective 0 children step ∨
      negated = true ∧ ∃ b, evaluate options record (condition connective negated children) = .ok b ∧
        step = .negate path (!b) := by
  constructor
  · rintro ⟨below, node, hnode, hnotes⟩
    rcases visited_condition_iff.mp hnode with
      ⟨rfl, rfl⟩ | ⟨i, child, below, hreached, hvisited, rfl⟩
    · rw [List.append_nil] at hnotes
      cases hnotes with
      | enter => exact .inl rfl
      | decide decided => exact .inr (.inl (.inr ⟨_, decided, by rw [Nat.zero_add]⟩))
      | negate result => exact .inr (.inr ⟨rfl, _, result, rfl⟩)
    · refine .inr (.inl (.inl ⟨i, child, hreached, below, node, hvisited, ?_⟩))
      rw [Nat.zero_add, List.append_assoc]
      exact hnotes
  · have hself {step : TraceStep}
        (h : Notes options record path (condition connective negated children) step) :
        Noted options record path (condition connective negated children) step :=
      ⟨[], _, .root, by rwa [List.append_nil]⟩
    rintro (rfl | (⟨i, child, hreached, below, node, hvisited, hnotes⟩ | ⟨i, hdecided, rfl⟩) |
      ⟨rfl, b, hb, rfl⟩)
    · exact hself .enter
    · rw [Nat.zero_add, List.append_assoc] at hnotes
      exact ⟨i :: below, node,
        visited_condition_iff.mpr (.inr ⟨i, child, below, hreached, hvisited, rfl⟩), hnotes⟩
    · rw [Nat.zero_add]
      exact hself (.decide hdecided)
    · exact hself (.negate hb)

theorem not_notedAmong_nil {index : Nat} :
    ¬ NotedAmong options record path connective index [] step := by
  rintro (⟨i, child, hreached, -⟩ | ⟨i, hdecided, -⟩)
  · exact not_reachesChild_nil hreached
  · exact not_decidedBy_nil hdecided

theorem notedAmong_cons_of_decisive {child : Rule} {index : Nat}
    (h : evaluate options record child = .ok connective.decisive) :
    NotedAmong options record path connective index (child :: children) step ↔
      Noted options record (path ++ [index]) child step ∨ step = .decide path connective index := by
  have hreached {i : Nat} {x : Rule} :
      ReachesChild options record connective (child :: children) i x ↔ i = 0 ∧ x = child := by
    rw [reachesChild_cons, or_iff_left]
    rintro ⟨_, -, hfirst, -⟩
    rw [h] at hfirst
    simp at hfirst
  simp only [NotedAmong, hreached, decidedBy_cons_of_decisive h]
  constructor
  · rintro (⟨_, _, ⟨rfl, rfl⟩, hnoted⟩ | ⟨_, rfl, rfl⟩)
    · exact .inl hnoted
    · exact .inr rfl
  · rintro (hnoted | rfl)
    · exact .inl ⟨0, child, ⟨rfl, rfl⟩, hnoted⟩
    · exact .inr ⟨0, rfl, rfl⟩

theorem notedAmong_cons_of_not_decisive {child : Rule} {index : Nat}
    (h : evaluate options record child = .ok (!connective.decisive)) :
    NotedAmong options record path connective index (child :: children) step ↔
      Noted options record (path ++ [index]) child step ∨
        NotedAmong options record path connective (index + 1) children step := by
  have hshift (i : Nat) : index + 1 + i = index + (i + 1) := by omega
  simp only [NotedAmong, reachesChild_cons, decidedBy_cons_of_not_decisive h, hshift]
  constructor
  · rintro (⟨_, _, ⟨rfl, rfl⟩ | ⟨i, rfl, -, hreached⟩, hnoted⟩ | ⟨_, ⟨i, rfl, hdecided⟩, rfl⟩)
    · exact .inl hnoted
    · exact .inr (.inl ⟨i, _, hreached, hnoted⟩)
    · exact .inr (.inr ⟨i, hdecided, rfl⟩)
  · rintro (hnoted | ⟨i, x, hreached, hnoted⟩ | ⟨i, hdecided, rfl⟩)
    · exact .inl ⟨0, child, .inl ⟨rfl, rfl⟩, hnoted⟩
    · exact .inl ⟨i + 1, x, .inr ⟨i, rfl, h, hreached⟩, hnoted⟩
    · exact .inr ⟨i + 1, ⟨i, rfl, hdecided⟩, rfl⟩

end Rule

/-! ## Places -/

/-- The field rule that a step found to hold. -/
def TraceStep.match? : TraceStep → Option Match
  | test path rule true => some ⟨path, rule⟩
  | _ => none

/-- The indices of a path, at the front of a place. -/
def NodePath.front (path : NodePath) : List (WithTop Nat) := path.map WithTop.some

@[simp] theorem NodePath.front_append (path below : NodePath) :
    NodePath.front (path ++ below) = path.front ++ NodePath.front below := List.map_append

/-- Where a step stands in a trace.  Places are compared from the front:
a node comes before what is below it and after all of its earlier
siblings, a decision stands where the next child would have come, and a
negation behind all children. -/
def TraceStep.place : TraceStep → List (WithTop Nat)
  | enter path _ _ => path.front
  | test path _ _ => path.front
  | decide path _ child => path.front ++ [WithTop.some (child + 1)]
  | negate path _ => path.front ++ [⊤]

/-- The walk has noted the steps that hold, in the order of their places,
and its finds are those of its steps. -/
structure Walk.Reports (w : Walk) (holds : TraceStep → Prop) : Prop where
  steps : ∀ step, step ∈ w.steps ↔ holds step
  order : w.steps.Pairwise (·.place < ·.place)
  found : w.found = w.steps.filterMap TraceStep.match?

namespace Rule

theorem Noted.place (h : Noted options record path rule step) :
    ∃ tail, step.place = path.front ++ tail := by
  obtain ⟨below, node, -, hnotes⟩ := h
  cases hnotes <;> simp [TraceStep.place]

theorem NotedAmong.place {index : Nat}
    (h : NotedAmong options record path connective index children step) :
    ∃ (i : Nat) (tail : List (WithTop Nat)), index ≤ i ∧
      step.place = path.front ++ WithTop.some i :: tail := by
  rcases h with ⟨i, child, -, hnoted⟩ | ⟨i, -, rfl⟩
  · obtain ⟨tail, htail⟩ := hnoted.place
    rw [NodePath.front_append, List.append_assoc] at htail
    exact ⟨index + i, tail, Nat.le_add_right index i, htail⟩
  · exact ⟨index + i + 1, [], by omega, rfl⟩

theorem lt_of_lt_at {front : List (WithTop Nat)} {a b : WithTop Nat} {as bs : List (WithTop Nat)}
    (h : a < b) : front ++ a :: as < front ++ b :: bs :=
  List.Lex.append_left _ (.rel h) front

theorem lt_append_cons {front : List (WithTop Nat)} {a : WithTop Nat} {as : List (WithTop Nat)} :
    front < front ++ a :: as := by
  have h : front ++ [] < front ++ a :: as := List.Lex.append_left _ .nil front
  rwa [List.append_nil] at h

/-- What is noted among the children of a node comes after the node's
entering and before its negation. -/
theorem NotedAmong.inside {index : Nat}
    (h : NotedAmong options record path connective index children step) :
    path.front < step.place ∧ step.place < path.front ++ [⊤] := by
  obtain ⟨i, tail, -, hplace⟩ := h.place
  rw [hplace]
  exact ⟨lt_append_cons, lt_of_lt_at (WithTop.coe_lt_top i)⟩

/-- What is noted of a child comes before what is noted from a later index on. -/
theorem Noted.place_lt {child : Rule} {index i : Nat} {later : TraceStep}
    {tail : List (WithTop Nat)} (h : Noted options record (path ++ [index]) child step)
    (hlater : later.place = path.front ++ WithTop.some i :: tail) (hindex : index < i) :
    step.place < later.place := by
  obtain ⟨below, hstep⟩ := h.place
  rw [hstep, hlater, NodePath.front_append, List.append_assoc]
  exact lt_of_lt_at (WithTop.coe_lt_coe.mpr hindex)

/-! ## Walks -/

theorem walkField_reports {r : FieldRule} {w : Walk}
    (h : walk options record true path (field r) = .ok w) :
    w.Reports (Noted options record path (field r)) := by
  rw [walk, walkField] at h
  obtain ⟨b, hb, hw⟩ := bind_eq_ok_iff.mp h
  cases hw
  refine ⟨fun step => ?_, List.pairwise_singleton _ _, ?_⟩
  · rw [noted_field_iff, traced_true, List.mem_singleton]
    constructor
    · intro hstep
      exact ⟨b, hb, hstep⟩
    · rintro ⟨b', hb', hstep⟩
      rw [hb] at hb'
      cases hb'
      exact hstep
  · cases b <;> rfl

/-- The steps of a condition, from those of its children. -/
theorem walk_condition_eq_ok {w : Walk}
    (h : walk options record true path (condition connective negated children) = .ok w) :
    ∃ inner, walkChildren options record true path connective 0 children = .ok inner ∧
      evaluate options record (condition connective negated children) =
        .ok (inner.matched != negated) ∧
      w.found = inner.found ∧
      w.steps = .enter path connective children.length :: (inner.steps ++
        if negated then [.negate path inner.matched] else []) := by
  rw [walk] at h
  obtain ⟨inner, hinner, hw⟩ := bind_eq_ok_iff.mp h
  have hmatched : (walkChildren options record true path connective 0 children).map Walk.matched =
      evaluateChildren options record connective children :=
    walkChildren_matched true path connective 0 children
  rw [hinner] at hmatched
  refine ⟨inner, hinner, ?_, ?_⟩
  · rw [evaluate_condition, ← hmatched]
    rfl
  · cases hw
    exact ⟨rfl, by simp [traced_true]⟩

/-- The steps of children, from those of the first and, unless it
decides, those of the others. -/
theorem walkChildren_cons_eq_ok {index : Nat} {child : Rule} {w : Walk}
    (h : walkChildren options record true path connective index (child :: children) = .ok w) :
    ∃ first, walk options record true (path ++ [index]) child = .ok first ∧
      (evaluate options record child = .ok connective.decisive ∧ w.found = first.found ∧
          w.steps = first.steps ++ [.decide path connective index] ∨
        evaluate options record child = .ok (!connective.decisive) ∧
          ∃ rest, walkChildren options record true path connective (index + 1) children = .ok rest ∧
            w.found = first.found ++ rest.found ∧ w.steps = first.steps ++ rest.steps) := by
  rw [walkChildren] at h
  obtain ⟨first, hfirst, hw⟩ := bind_eq_ok_iff.mp h
  have hvalue : (walk options record true (path ++ [index]) child).map Walk.matched =
      evaluate options record child := walk_matched true (path ++ [index]) child
  rw [hfirst] at hvalue
  refine ⟨first, hfirst, ?_⟩
  split at hw
  · next hdecisive =>
    cases hw
    refine .inl ⟨?_, rfl, rfl⟩
    rw [← hvalue, ← eq_of_beq hdecisive]
    rfl
  · next hdecisive =>
    obtain ⟨rest, hrest, hw⟩ := bind_eq_ok_iff.mp hw
    cases hw
    refine .inr ⟨?_, rest, hrest, rfl, rfl⟩
    rw [← hvalue, ← Bool.eq_not.mpr (by simpa using hdecisive)]
    rfl

mutual

/-- A walk reports what is noted of its rule. -/
theorem walk_reports : ∀ (path : NodePath) (rule : Rule) (w : Walk),
    walk options record true path rule = .ok w → w.Reports (Noted options record path rule)
  | path, field r, w, h => walkField_reports h
  | path, condition connective negated children, w, h => by
    obtain ⟨inner, hinner, hvalue, hfound, hsteps⟩ := walk_condition_eq_ok h
    have reports := walkChildren_reports path connective 0 children inner hinner
    have hnegation (step : TraceStep) :
        step ∈ (if negated then [.negate path inner.matched] else []) ↔ negated = true ∧
          ∃ b, evaluate options record (condition connective negated children) = .ok b ∧
            step = .negate path (!b) := by
      rw [hvalue]
      cases negated <;> cases inner.matched <;> simp
    refine ⟨fun step => ?_, ?_, ?_⟩
    · rw [hsteps, List.mem_cons, List.mem_append, hnegation, reports.steps, noted_condition_iff]
    · rw [hsteps, List.pairwise_cons, List.pairwise_append]
      refine ⟨fun step hstep => ?_, reports.order, ?_, fun step hstep last hlast => ?_⟩
      · rcases List.mem_append.mp hstep with hstep | hstep
        · exact ((reports.steps step).mp hstep).inside.1
        · obtain ⟨-, b, -, rfl⟩ := (hnegation step).mp hstep
          exact lt_append_cons
      · cases negated <;> simp
      · obtain ⟨-, b, -, rfl⟩ := (hnegation last).mp hlast
        exact ((reports.steps step).mp hstep).inside.2
    · rw [hfound, hsteps, reports.found]
      cases negated <;> simp [TraceStep.match?, List.filterMap_cons]

theorem walkChildren_reports (path : NodePath) (connective : Connective) :
    ∀ (index : Nat) (children : List Rule) (w : Walk),
      walkChildren options record true path connective index children = .ok w →
        w.Reports (NotedAmong options record path connective index children)
  | index, [], w, h => by
    rw [walkChildren] at h
    cases h
    exact ⟨fun step => iff_of_false List.not_mem_nil not_notedAmong_nil, .nil, rfl⟩
  | index, child :: children, w, h => by
    obtain ⟨first, hfirst, hcases⟩ := walkChildren_cons_eq_ok h
    have reports := walk_reports (path ++ [index]) child first hfirst
    rcases hcases with ⟨hdecisive, hfound, hsteps⟩ | ⟨hother, rest, hrest, hfound, hsteps⟩
    · refine ⟨fun step => ?_, ?_, ?_⟩
      · rw [hsteps, List.mem_append, List.mem_singleton, reports.steps,
          notedAmong_cons_of_decisive hdecisive]
      · rw [hsteps, List.pairwise_append]
        refine ⟨reports.order, List.pairwise_singleton _ _, fun step hstep last hlast => ?_⟩
        have hplace : (TraceStep.decide path connective index).place =
            path.front ++ [WithTop.some (index + 1)] := rfl
        rw [List.mem_singleton.mp hlast]
        exact ((reports.steps step).mp hstep).place_lt hplace (Nat.lt_succ_self index)
      · rw [hfound, hsteps, List.filterMap_append, reports.found]
        simp [TraceStep.match?]
    · have restReports := walkChildren_reports path connective (index + 1) children rest hrest
      refine ⟨fun step => ?_, ?_, ?_⟩
      · rw [hsteps, List.mem_append, reports.steps, restReports.steps,
          notedAmong_cons_of_not_decisive hother]
      · rw [hsteps, List.pairwise_append]
        refine ⟨reports.order, restReports.order, fun step hstep later hlater => ?_⟩
        obtain ⟨i, tail, hi, hplace⟩ := ((restReports.steps later).mp hlater).place
        exact ((reports.steps step).mp hstep).place_lt hplace hi
      · rw [hfound, hsteps, List.filterMap_append, reports.found, restReports.found]

end

end Rule

end RecordSieve
