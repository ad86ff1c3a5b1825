/-
RecordSieve.Proofs.Outcome — computations that may fail, one item of
a list after the other.

A computation over a list fails exactly when it reaches an item that
fails (`Reaches`): the items before it have let the computation go on.
What lets it go on is any result for `mapM` and `filterM`, and the result
`false` for `anyM`.
-/
import Mathlib.Control.Monad.Basic
import RecordSieve.Failure

namespace RecordSieve

variable {ε ε' α β : Type}

/-! ## One step -/

theorem bind_eq_error_iff {x : Except ε α} {f : α → Except ε β} {e : ε} :
    (x >>= f) = .error e ↔ x = .error e ∨ ∃ a, x = .ok a ∧ f a = .error e := by
  cases x with
  | error e' => simp [bind, Except.bind]
  | ok a => simp [bind, Except.bind]

theorem bind_eq_ok_iff {x : Except ε α} {f : α → Except ε β} {b : β} :
    (x >>= f) = .ok b ↔ ∃ a, x = .ok a ∧ f a = .ok b := by
  cases x with
  | error e => simp [bind, Except.bind]
  | ok a => simp [bind, Except.bind]

theorem toOption_eq_some_iff {x : Except ε α} {a : α} : x.toOption = some a ↔ x = .ok a := by
  cases x <;> simp [Except.toOption]

/-- A computation gives a result unless it breaks off, for which there
is one way only. -/
theorem exists_ok_iff {x : Except Abort α} : (∃ a, x = .ok a) ↔ x ≠ .error .offsetCut := by
  rcases x with ⟨⟨⟩⟩ | a <;> simp

/-- The failure of a computation, if it failed. -/
def failure? : Except ε α → Option ε
  | .ok _ => none
  | .error e => some e

@[simp] theorem failure?_ok (a : α) : failure? (.ok a : Except ε α) = none := rfl

@[simp] theorem failure?_error (e : ε) : failure? (.error e : Except ε α) = some e := rfl

theorem failure?_eq_some_iff {x : Except ε α} {e : ε} : failure? x = some e ↔ x = .error e := by
  cases x <;> simp

theorem failure?_eq_none_iff {x : Except ε α} : failure? x = none ↔ ∃ a, x = .ok a := by
  cases x <;> simp

/-- A computation that goes on fails as it did before, or as what follows does. -/
theorem failure?_bind {x : Except ε α} {f : α → Except ε β} {after : Option ε}
    (h : ∀ a, x = .ok a → failure? (f a) = after) :
    failure? (x >>= f) = (failure? x).or after := by
  cases x with
  | error e => rfl
  | ok a => exact h a rfl

theorem failure?_bind_pure {x : Except ε α} {f : α → β} :
    failure? (x >>= fun a => pure (f a)) = failure? x := by
  cases x <;> rfl

theorem failure?_map {x : Except ε α} {f : α → β} : failure? (x.map f) = failure? x := by
  cases x <;> rfl

/-! ## Answers -/

/-- An answer without negation. -/
theorem map_bne_false (x : Except ε Bool) : x.map (· != false) = x := by
  rcases x with e | b
  · rfl
  · cases b <;> rfl

/-- The opposite answer is yes where there is an answer and it is not. -/
theorem map_not_eq_true_iff {x : Except ε Bool} (h : ∀ e, x ≠ .error e) :
    x.map (!·) = .ok true ↔ x ≠ .ok true := by
  rcases x with e | _ | _
  · exact absurd rfl (h e)
  · simp [Except.map]
  · simp [Except.map]

/-- Two answers that are there are one if they are yes alike. -/
theorem eq_of_eq_true_iff {x y : Except ε Bool} (hx : ∀ e, x ≠ .error e)
    (hy : ∀ e, y ≠ .error e) (h : x = .ok true ↔ y = .ok true) : x = y := by
  rcases x with e | _ | _
  · exact absurd rfl (hx e)
  · rcases y with e | _ | _ <;> simp_all
  · rcases y with e | _ | _ <;> simp_all

/-! ## Lists -/

/-- A computation over a list fails as the first item that fails does. -/
theorem failure?_mapM {f : α → Except ε β} {items : List α} :
    failure? (items.mapM f) = items.findSome? fun a => failure? (f a) := by
  induction items with
  | nil => rfl
  | cons a items ih =>
    rw [List.mapM_cons, List.findSome?_cons]
    cases f a with
    | error e => rfl
    | ok b =>
      refine Eq.trans ?_ ih
      cases items.mapM f <;> rfl

theorem findSome?_congr {f g : α → Option β} {items : List α} (h : ∀ a ∈ items, f a = g a) :
    items.findSome? f = items.findSome? g := by
  induction items with
  | nil => rfl
  | cons a items ih =>
    obtain ⟨ha, hitems⟩ := List.forall_mem_cons.mp h
    rw [List.findSome?_cons, List.findSome?_cons, ha, ih hitems]

theorem findSome?_flatMap {γ : Type} {f : β → Option γ} {g : α → List β} {items : List α} :
    (items.flatMap g).findSome? f = items.findSome? fun a => (g a).findSome? f := by
  induction items with
  | nil => rfl
  | cons a items ih =>
    rw [List.flatMap_cons, List.findSome?_append, List.findSome?_cons, ih]
    cases (g a).findSome? f <;> rfl

theorem mapM_congr {f g : α → Except ε β} {items : List α} (h : ∀ a ∈ items, f a = g a) :
    items.mapM f = items.mapM g := by
  induction items with
  | nil => rfl
  | cons a items ih =>
    obtain ⟨ha, hitems⟩ := List.forall_mem_cons.mp h
    rw [List.mapM_cons, List.mapM_cons, ha, ih hitems]

/-- Some item is a target, and each item before it may be passed. -/
def Reaches (passed target : α → Prop) (items : List α) : Prop :=
  ∃ before item after, items = before ++ item :: after ∧ (∀ x ∈ before, passed x) ∧ target item

theorem findSome?_eq_some_iff_reaches {f : α → Option β} {items : List α} {b : β} :
    items.findSome? f = some b ↔ Reaches (f · = none) (f · = some b) items := by
  rw [List.findSome?_eq_some_iff]
  constructor
  · rintro ⟨before, item, after, hitems, hitem, hbefore⟩
    exact ⟨before, item, after, hitems, hbefore, hitem⟩
  · rintro ⟨before, item, after, hitems, hbefore, hitem⟩
    exact ⟨before, item, after, hitems, hitem, hbefore⟩

theorem not_reaches_nil {passed target : α → Prop} : ¬ Reaches passed target [] := by
  rintro ⟨before, item, after, h, -⟩
  simp at h

theorem reaches_cons {passed target : α → Prop} {a : α} {items : List α} :
    Reaches passed target (a :: items) ↔ target a ∨ passed a ∧ Reaches passed target items := by
  constructor
  · rintro ⟨before, item, after, h, hbefore, hitem⟩
    cases before with
    | nil =>
      simp only [List.nil_append, List.cons.injEq] at h
      exact Or.inl (h.1 ▸ hitem)
    | cons x before =>
      simp only [List.cons_append, List.cons.injEq] at h
      obtain ⟨rfl, rfl⟩ := h
      obtain ⟨ha, hbefore⟩ := List.forall_mem_cons.mp hbefore
      exact Or.inr ⟨ha, before, item, after, rfl, hbefore, hitem⟩
  · rintro (h | ⟨ha, before, item, after, rfl, hbefore, hitem⟩)
    · exact ⟨[], a, items, rfl, by simp, h⟩
    · exact ⟨a :: before, item, after, rfl, List.forall_mem_cons.mpr ⟨ha, hbefore⟩, hitem⟩

theorem reaches_congr {passed target target' : α → Prop} {items : List α}
    (h : ∀ x ∈ items, target x ↔ target' x) :
    Reaches passed target items ↔ Reaches passed target' items := by
  induction items with
  | nil => simp [not_reaches_nil]
  | cons a items ih =>
    obtain ⟨ha, hitems⟩ := List.forall_mem_cons.mp h
    rw [reaches_cons, reaches_cons, ha, ih hitems]

/-- If every other item may be passed, a target is reached as soon as
there is one. -/
theorem reaches_iff_exists {passed target : α → Prop} (h : ∀ x, ¬ target x → passed x)
    {items : List α} : Reaches passed target items ↔ ∃ x ∈ items, target x := by
  induction items with
  | nil => simp [not_reaches_nil]
  | cons a items ih =>
    simp only [reaches_cons, ih, List.mem_cons, or_and_right, exists_or, exists_eq_left]
    by_cases ha : target a
    · simp [ha]
    · simp [ha, h a ha]

/-- A search ends at the first item of which it is not false, with what
it is of that. -/
theorem anyM_eq_iff_reaches {f : α → Except ε Bool} {items : List α} {r : Except ε Bool}
    (hr : r ≠ .ok false) :
    items.anyM f = r ↔ Reaches (f · = .ok false) (f · = r) items := by
  induction items with
  | nil => simp [List.anyM, pure, Except.pure, not_reaches_nil, hr.symm]
  | cons a items ih =>
    rw [reaches_cons, ← ih]
    simp only [List.anyM]
    rcases h : f a with e | _ | _
    · simp [bind, Except.bind]
    · simp [bind, Except.bind, hr.symm]
    · simp [bind, Except.bind, pure, Except.pure]

theorem anyM_eq_error_iff {f : α → Except ε Bool} {items : List α} {e : ε} :
    items.anyM f = .error e ↔ Reaches (f · = .ok false) (f · = .error e) items :=
  anyM_eq_iff_reaches (by simp)

theorem anyM_eq_true_iff {f : α → Except ε Bool} {items : List α} :
    items.anyM f = .ok true ↔ Reaches (f · = .ok false) (f · = .ok true) items :=
  anyM_eq_iff_reaches (by simp)

theorem anyM_eq_false_iff {f : α → Except ε Bool} {items : List α} :
    items.anyM f = .ok false ↔ ∀ a ∈ items, f a = .ok false := by
  induction items with
  | nil => simp [List.anyM, pure, Except.pure]
  | cons a items ih =>
    rw [List.forall_mem_cons, ← ih]
    simp only [List.anyM]
    cases h : f a with
    | error e => simp [bind, Except.bind]
    | ok b => cases b <;> simp [bind, Except.bind, pure, Except.pure]

/-- A search that does not fail finds an item if there is one, wherever it is. -/
theorem anyM_eq_true_iff_exists {f : α → Except ε Bool} {items : List α}
    (h : ∀ e, items.anyM f ≠ .error e) :
    items.anyM f = .ok true ↔ ∃ a ∈ items, f a = .ok true := by
  constructor
  · intro hfound
    obtain ⟨before, item, after, rfl, -, hitem⟩ := anyM_eq_true_iff.mp hfound
    exact ⟨item, by simp, hitem⟩
  · rintro ⟨a, ha, htrue⟩
    rcases hsearch : items.anyM f with e | _ | _
    · exact absurd hsearch (h e)
    · rw [anyM_eq_false_iff.mp hsearch a ha] at htrue
      cases htrue
    · rfl

/-- An item is still found by a test that fails nowhere more, and holds
wherever the first one did. -/
theorem anyM_mono {f g : α → Except ε Bool} {items : List α}
    (h : ∀ a b, f a = .ok b → ∃ b', g a = .ok b' ∧ (b = true → b' = true))
    (hf : items.anyM f = .ok true) : items.anyM g = .ok true := by
  induction items with
  | nil => cases hf
  | cons a items ih =>
    simp only [List.anyM] at hf ⊢
    obtain ⟨b, hb, hrest⟩ := bind_eq_ok_iff.mp hf
    obtain ⟨b', hb', himp⟩ := h a b hb
    rw [hb']
    cases b' with
    | true => rfl
    | false =>
      cases b with
      | true => exact absurd (himp rfl) Bool.false_ne_true
      | false => exact ih hrest

theorem mapM_eq_error_iff {f : α → Except ε β} {items : List α} {e : ε} :
    items.mapM f = .error e ↔ Reaches (∃ b, f · = .ok b) (f · = .error e) items := by
  induction items with
  | nil => simp [pure, Except.pure, not_reaches_nil]
  | cons a items ih =>
    rw [reaches_cons, ← ih, List.mapM_cons, bind_eq_error_iff]
    simp [bind_eq_error_iff, pure, Except.pure]

theorem mapM_cons_eq_ok_iff {f : α → Except ε β} {a : α} {items : List α} {bs : List β} :
    (a :: items).mapM f = .ok bs ↔
      ∃ b rest, f a = .ok b ∧ items.mapM f = .ok rest ∧ b :: rest = bs := by
  rw [List.mapM_cons, bind_eq_ok_iff]
  simp [bind_eq_ok_iff, pure, Except.pure]

/-- Each result of a computation over a list is the result for an item of it. -/
theorem exists_of_mem_mapM {f : α → Except ε β} {items : List α} {bs : List β} {b : β}
    (h : items.mapM f = .ok bs) (hb : b ∈ bs) : ∃ a ∈ items, f a = .ok b := by
  induction items generalizing bs with
  | nil =>
    cases h
    cases hb
  | cons a items ih =>
    obtain ⟨first, rest, hfirst, hrest, rfl⟩ := mapM_cons_eq_ok_iff.mp h
    rcases List.mem_cons.mp hb with rfl | hb
    · exact ⟨a, List.mem_cons_self, hfirst⟩
    · obtain ⟨a', ha', hfound⟩ := ih hrest hb
      exact ⟨a', List.mem_cons_of_mem a ha', hfound⟩

theorem mem_of_mapM_eq_ok {f : α → Except ε β} {items : List α} {bs : List β} {a : α} {b : β}
    (h : items.mapM f = .ok bs) (ha : a ∈ items) (hb : f a = .ok b) : b ∈ bs := by
  induction items generalizing bs with
  | nil => cases ha
  | cons first items ih =>
    obtain ⟨b', rest, hfirst, hrest, rfl⟩ := mapM_cons_eq_ok_iff.mp h
    rcases List.mem_cons.mp ha with rfl | ha
    · cases hfirst.symm.trans hb
      exact List.mem_cons_self
    · exact List.mem_cons_of_mem b' (ih hrest ha)

theorem filterAuxM_eq_error_iff {f : α → Except ε Bool} {items kept : List α} {e : ε} :
    List.filterAuxM f items kept = .error e ↔
      Reaches (∃ b, f · = .ok b) (f · = .error e) items := by
  induction items generalizing kept with
  | nil => simp [List.filterAuxM, pure, Except.pure, not_reaches_nil]
  | cons a items ih =>
    rw [reaches_cons, List.filterAuxM, bind_eq_error_iff]
    simp [ih]

theorem filterM_eq_error_iff {f : α → Except ε Bool} {items : List α} {e : ε} :
    items.filterM f = .error e ↔ Reaches (∃ b, f · = .ok b) (f · = .error e) items := by
  rw [List.filterM, bind_eq_error_iff, filterAuxM_eq_error_iff]
  simp [pure, Except.pure]

theorem filterAuxM_eq_ok {f : α → Except ε Bool} {p : α → Bool} {items : List α}
    (h : ∀ a ∈ items, f a = .ok (p a)) (kept : List α) :
    List.filterAuxM f items kept = .ok ((items.filter p).reverse ++ kept) := by
  induction items generalizing kept with
  | nil => rfl
  | cons a items ih =>
    obtain ⟨ha, hitems⟩ := List.forall_mem_cons.mp h
    rw [List.filterAuxM, ha]
    show List.filterAuxM f items (cond (p a) (a :: kept) kept) = _
    rw [ih hitems]
    cases hp : p a <;> simp [hp]

/-- A test that never fails keeps the items that pass it, in order. -/
theorem filterM_eq_ok {f : α → Except ε Bool} {p : α → Bool} {items : List α}
    (h : ∀ a ∈ items, f a = .ok (p a)) : items.filterM f = .ok (items.filter p) := by
  rw [List.filterM, filterAuxM_eq_ok h]
  simp [bind, Except.bind, pure, Except.pure]

/-! ## Attempts -/

theorem ok_or_refused_iff {x : Attempt ε α} :
    ((∃ a, x = .ok a) ∨ ∃ cause, x = .error (.refused cause)) ↔
      x ≠ .error (.aborted .offsetCut) := by
  rcases x with ⟨cause | ⟨⟩⟩ | a <;> simp

/-- The same failure with another cause. -/
def Failure.map (f : ε → ε') : Failure ε → Failure ε'
  | refused cause => refused (f cause)
  | aborted abort => aborted abort

theorem failure?_mapCause {f : ε → ε'} {x : Attempt ε α} :
    failure? (x.mapCause f) = (failure? x).map (Failure.map f) := by
  rcases x with ⟨cause | abort⟩ | a <;> rfl

theorem mapCause_eq_aborted_iff {f : ε → ε'} {x : Attempt ε α} {abort : Abort} :
    x.mapCause f = .error (.aborted abort) ↔ x = .error (.aborted abort) := by
  rcases x with ⟨cause | abort'⟩ | a <;> simp [Attempt.mapCause]

theorem mapCause_eq_ok_iff {f : ε → ε'} {x : Attempt ε α} {a : α} :
    x.mapCause f = .ok a ↔ x = .ok a := by
  rcases x with ⟨cause | abort⟩ | a' <;> simp [Attempt.mapCause]

theorem ofOption_eq_ok_iff {cause : ε} {x : Option α} {a : α} :
    Attempt.ofOption cause x = .ok a ↔ x = some a := by
  cases x <;> simp [Attempt.ofOption, Attempt.refuse]

theorem ofOutcome_eq_ok_iff {x : Except Abort α} {a : α} :
    (Attempt.ofOutcome x : Attempt ε α) = .ok a ↔ x = .ok a := by
  cases x <;> simp [Attempt.ofOutcome]

theorem ofOutcome_anyM {f : α → Except Abort Bool} {items : List α} :
    (Attempt.ofOutcome (items.anyM f) : Attempt ε Bool) =
      items.anyM fun a => Attempt.ofOutcome (f a) := by
  induction items with
  | nil => rfl
  | cons a items ih =>
    simp only [List.anyM]
    rw [← ih]
    rcases f a with abort | _ | _ <;> rfl

theorem ofOption_ne_aborted {cause : ε} {x : Option α} {abort : Abort} :
    Attempt.ofOption cause x ≠ .error (.aborted abort) := by
  cases x <;> simp [Attempt.ofOption, Attempt.refuse]

theorem bind_ofOutcome_eq_aborted_iff {x : Except Abort α} {f : α → Attempt ε β} {abort : Abort}
    (hf : ∀ a, f a ≠ .error (.aborted abort)) :
    (Attempt.ofOutcome x >>= f) = .error (.aborted abort) ↔ x = .error abort := by
  rw [bind_eq_error_iff]
  cases x with
  | ok a => simp [Attempt.ofOutcome, hf a]
  | error abort' => simp [Attempt.ofOutcome]

theorem orAbsent_eq_error_iff {x : Attempt ε (Option α)} {abort : Abort} :
    x.orAbsent = .error abort ↔ x = .error (.aborted abort) := by
  rcases x with ⟨cause | abort'⟩ | a <;> simp [Attempt.orAbsent]

end RecordSieve
