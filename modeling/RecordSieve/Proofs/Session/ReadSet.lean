/-
RecordSieve.Proofs.Session.ReadSet — the required fields are all that a
session reads of a record.

A field rule looks at its own field and nowhere else, so two records that
hold the same in the fields of a rule are the same to it
(`FieldRule.evaluate_of_resolve_eq`), and to the walk over any tree of
such rules.  The required fields are worked out once, at the start; they
stay the fields of the tree through every change of options, because the
invariant of runs says so (`run_isReading`).
-/
import RecordSieve.Proofs.Rule.Leaves
import RecordSieve.Proofs.Session.Run

namespace RecordSieve

/-- Each of the fields leads to the same in both records: to the same
value, or to none. -/
def AgreeOn (fields : List String) (record record' : Json) : Prop :=
  ∀ field ∈ fields, record.resolve field = record'.resolve field

variable {options : RuleOptions} {record record' : Json}

theorem FieldRule.evaluate_of_resolve_eq {r : FieldRule}
    (h : record.resolve r.field = record'.resolve r.field) :
    r.evaluate options record = r.evaluate options record' := by
  rw [evaluate, evaluate, h]

theorem Rule.evaluate_leaf_of_agreeOn {rule : Rule} (h : AgreeOn rule.fields record record') :
    ∀ r ∈ rule.leaves, r.evaluate options record = r.evaluate options record' := fun r hr =>
  FieldRule.evaluate_of_resolve_eq (h r.field (Rule.field_mem_fields hr))

namespace Session

variable {definition : Json}

/-- A session whose tree and fields belong together answers alike for
records that agree on its required fields. -/
theorem IsReading.answers_of_agreeOn {s : Session} (hs : IsReading definition options s)
    (h : AgreeOn s.requiredFields record record') :
    s.evaluate record = s.evaluate record' ∧ s.explain record = s.explain record' := by
  rw [hs.fields] at h
  have hleaves (r : FieldRule) (hr : r ∈ s.root.leaves) :
      r.evaluate s.options record = r.evaluate s.options record' :=
    Rule.evaluate_leaf_of_agreeOn h r hr
  exact ⟨Rule.evaluate_congr hleaves, Rule.explain_congr s.tracing hleaves⟩

/-- No run of operations touches the required fields. -/
theorem requiredFields_run (s : Session) (ops : List Operation) :
    (s.run ops).session.requiredFields = s.requiredFields := by
  induction ops generalizing s with
  | nil => rfl
  | cons op ops ih =>
    refine (ih (s.perform op).session).trans ?_
    cases op with
    | setOptions chosen =>
      rw [perform]
      cases hw : s.withOptions chosen with
      | error failure => rfl
      | ok s' =>
        obtain ⟨root, -, hs'⟩ := bind_eq_ok_iff.mp hw
        cases hs'
        rfl
    | _ => rfl

/-- After any run of operations, options that were taken or refused among
them, two records that agree on the fields worked out at the start have
one answer and one explanation, down to the last line of its trace. -/
theorem answers_eq_of_agreeOn {s₀ : Session} (h : start definition options = .ok s₀)
    (ops : List Operation) {record record' : Json}
    (hagree : AgreeOn s₀.requiredFields record record') :
    (s₀.run ops).session.requiredFields = s₀.requiredFields ∧
    (s₀.run ops).session.evaluate record = (s₀.run ops).session.evaluate record' ∧
    (s₀.run ops).session.explain record = (s₀.run ops).session.explain record' := by
  have hfields := requiredFields_run s₀ ops
  have hreading := run_isReading (isReading_of_start h).1 ops
  exact ⟨hfields, hreading.answers_of_agreeOn (hfields ▸ hagree)⟩

/-- An order with a due date; its note is not among the fields. -/
def orderRecord (note : String) : Json :=
  .ofMembers [("due", .string "12.06.2019"), ("note", .string note), ("state", .string "open")]

/-- The session is read anew under German options and refuses American
ones; it never looks at the note. -/
theorem answers_eq_of_agreeOn_note :
    ∃ s₀, start dayFirst british = .ok s₀ ∧
      AgreeOn s₀.requiredFields (orderRecord "fragile") (orderRecord "by hand") ∧
      (s₀.run [.setOptions german, .trace, .setOptions american]).session.explain
          (orderRecord "fragile") =
        (s₀.run [.setOptions german, .trace, .setOptions american]).session.explain
          (orderRecord "by hand") := by
  have hfields : (start dayFirst british).map requiredFields = .ok ["due", "state"] := by
    decide +kernel
  cases h : start dayFirst british with
  | error failure => rw [h] at hfields; cases hfields
  | ok s₀ =>
    rw [h] at hfields
    have hfields : s₀.requiredFields = ["due", "state"] := Except.ok.inj hfields
    have hagree : AgreeOn s₀.requiredFields (orderRecord "fragile") (orderRecord "by hand") := by
      rw [hfields]
      simp only [AgreeOn, List.forall_mem_cons]
      exact ⟨rfl, rfl, List.forall_mem_nil _⟩
    obtain ⟨-, -, hexplain⟩ := answers_eq_of_agreeOn h
      [.setOptions german, .trace, .setOptions american] hagree
    exact ⟨s₀, rfl, hagree, hexplain⟩

end Session

end RecordSieve
