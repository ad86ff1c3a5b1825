/-
RecordSieve.Proofs.Session.DefinitionPath — where in the definition the
path of an explanation leads.

A path counts children, and the children of a condition are the objects
among the items of its `rules`.  So it is to be followed through the
items that are read (`readItems`), and level by level the node that it
leads to mirrors the value there (`Rule.Visited.mirrors`).

Among all items the value stands at other positions.  `Places` relates the
two numberings: an index is the number of objects in front of the
position.  One position belongs to an index (`Places.unique`), and the two
are equal exactly where nothing in front is passed over
(`Places.eq_iff`).
-/
import RecordSieve.Proofs.Rule.Grammar
import RecordSieve.Proofs.Session.Report
import RecordSieve.Proofs.Session.Run

namespace RecordSieve

/-! ## Positions in a list that is filtered -/

section

variable {α : Type} {p : α → Bool} {items : List α} {x : α} {position : Nat}

/-- What is left stands behind as many items as were left in front of it. -/
theorem exists_position {index : Nat} (h : (items.filter p)[index]? = some x) :
    ∃ position, items[position]? = some x ∧ p x = true ∧
      (items.take position).countP p = index := by
  induction items generalizing index with
  | nil => simp at h
  | cons a items ih =>
    by_cases ha : p a = true
    · rw [List.filter_cons_of_pos ha] at h
      cases index with
      | zero =>
        cases h
        exact ⟨0, rfl, ha, rfl⟩
      | succ index =>
        obtain ⟨position, hposition, hx, hcount⟩ := ih h
        exact ⟨position + 1, hposition, hx, by simp [ha, hcount]⟩
    · rw [List.filter_cons_of_neg ha] at h
      obtain ⟨position, hposition, hx, hcount⟩ := ih h
      exact ⟨position + 1, hposition, hx, by simp [ha, hcount]⟩

theorem getElem?_filter_countP (h : items[position]? = some x) (hx : p x = true) :
    (items.filter p)[(items.take position).countP p]? = some x := by
  induction items generalizing position with
  | nil => simp at h
  | cons a items ih =>
    cases position with
    | zero =>
      cases h
      simp [hx]
    | succ position =>
      have hrest := ih h
      by_cases ha : p a = true
      · simpa [ha] using hrest
      · simpa [ha] using hrest

/-- Of two items that are left the later one has more in front of it. -/
theorem countP_take_lt {position' : Nat} (hlt : position < position')
    (h : items[position]? = some x) (hx : p x = true) :
    (items.take position).countP p < (items.take position').countP p := by
  have hnext : (items.take (position + 1)).countP p = (items.take position).countP p + 1 := by
    rw [List.take_add_one, h]
    simp [hx]
  have hle : (items.take (position + 1)).countP p ≤ (items.take position').countP p :=
    List.Sublist.countP_le (List.take_sublist_take_left hlt)
  omega

/-- An item keeps its position if all in front of it are left. -/
theorem countP_take_eq_iff (h : items[position]? = some x) :
    (items.take position).countP p = position ↔ ∀ item ∈ items.take position, p item = true := by
  obtain ⟨hlength, -⟩ := List.getElem?_eq_some_iff.mp h
  rw [← List.countP_eq_length, List.length_take_of_le hlength.le]

end

namespace Definition

/-! ## Paths through a definition -/

/-- The items under `rules`. -/
def ruleItems : Json → List Json
  | .object members =>
    match members.lookup "rules" with
    | some (.array items) => items
    | _ => []
  | _ => []

/-- The items under `rules` that are read: the objects. -/
def readItems (value : Json) : List Json := (ruleItems value).filter Json.isObject

theorem readItems_object (members : List (String × Json)) :
    readItems (.object members) = childItems members := by
  unfold readItems ruleItems childItems
  dsimp only
  cases members.lookup "rules" with
  | none => rfl
  | some value => cases value <;> rfl

/-- The value that indices lead to, each among the items of its level. -/
def follow (items : Json → List Json) (value : Json) : List Nat → Option Json
  | [] => some value
  | index :: path => (items value)[index]?.bind fun item => follow items item path

variable {items : Json → List Json} {value item target : Json} {path positions : List Nat}

theorem follow_concat (index : Nat) :
    follow items value (path ++ [index]) =
      (follow items value path).bind fun inner => (items inner)[index]? := by
  induction path generalizing value with
  | nil => simp [follow]
  | cons first path ih =>
    rw [List.cons_append, follow, follow]
    cases (items value)[first]? with
    | none => rfl
    | some item => exact ih

/-! ## Places -/

/-- Positions lead to a value, and the indices count the objects in front
of each. -/
inductive Places : Json → List Nat → NodePath → Json → Prop
  | here {value : Json} : Places value [] [] value
  | inside {value item target : Json} {position : Nat} {positions : List Nat} {path : NodePath} :
      (ruleItems value)[position]? = some item → item.isObject = true →
      Places item positions path target →
      Places value (position :: positions)
        (((ruleItems value).take position).countP Json.isObject :: path) target

/-- On the way along the positions nothing in front is passed over. -/
def NothingSkipped (value : Json) : List Nat → Prop
  | [] => True
  | position :: positions =>
    (∀ item ∈ (ruleItems value).take position, item.isObject = true) ∧
      ∀ item, (ruleItems value)[position]? = some item → NothingSkipped item positions

theorem exists_places (h : follow readItems value path = some target) :
    ∃ positions, Places value positions path target := by
  induction path generalizing value with
  | nil =>
    cases h
    exact ⟨[], .here⟩
  | cons index path ih =>
    obtain ⟨item, hitem, hrest⟩ := Option.bind_eq_some_iff.mp h
    obtain ⟨position, hposition, hobject, rfl⟩ := exists_position hitem
    obtain ⟨positions, hpositions⟩ := ih hrest
    exact ⟨position :: positions, .inside hposition hobject hpositions⟩

/-- The positions lead there among all items. -/
theorem Places.follow_positions (h : Places value positions path target) :
    follow ruleItems value positions = some target := by
  induction h with
  | here => rfl
  | inside hitem _ _ ih =>
    rw [follow, hitem]
    exact ih

/-- The path leads there among the items that are read. -/
theorem Places.follow_path (h : Places value positions path target) :
    follow readItems value path = some target := by
  induction h with
  | here => rfl
  | inside hitem hobject _ ih =>
    rw [follow, readItems, getElem?_filter_countP hitem hobject]
    exact ih

/-- A path stands for one place. -/
theorem Places.unique {target' : Json} {positions' : List Nat}
    (h : Places value positions path target) (h' : Places value positions' path target') :
    positions = positions' := by
  induction h generalizing positions' with
  | here =>
    cases h'
    rfl
  | @inside value item target position positions path hitem hobject _ ih =>
    generalize hpath : ((ruleItems value).take position).countP Json.isObject :: path = path' at h'
    cases h' with
    | here => cases hpath
    | @inside _ item' _ position' positions' path' hitem' hobject' hrest =>
      obtain ⟨hcount, rfl⟩ := List.cons.inj hpath
      have hposition : position = position' := by
        rcases Nat.lt_trichotomy position position' with hlt | heq | hlt
        · exact absurd hcount (countP_take_lt hlt hitem hobject).ne
        · exact heq
        · exact absurd hcount (countP_take_lt hlt hitem' hobject').ne'
      subst hposition
      cases hitem.symm.trans hitem'
      rw [ih hrest]

/-- Positions and indices are the same where nothing is passed over. -/
theorem Places.eq_iff (h : Places value positions path target) :
    positions = path ↔ NothingSkipped value positions := by
  induction h with
  | here => simp [NothingSkipped]
  | inside hitem _ _ ih =>
    rw [NothingSkipped, List.cons.injEq, ← countP_take_eq_iff hitem, ih, eq_comm]
    simp [hitem]

end Definition

open Definition

/-! ## Visited nodes -/

namespace Rule

variable {options : RuleOptions} {record definition : Json} {rule node child : Rule}
  {path : NodePath}

theorem MirrorsAll.exists_item {before after : List Rule} {items : List Json}
    (h : MirrorsAll options (before ++ child :: after) items) :
    ∃ item, items[before.length]? = some item ∧ child.Mirrors options item := by
  induction before generalizing items with
  | nil =>
    cases items with
    | nil => exact h.elim
    | cons item items => exact ⟨item, rfl, h.1⟩
  | cons first before ih =>
    cases items with
    | nil => exact h.elim
    | cons item items => exact ih h.2

/-- A visited node mirrors the value that its path leads to. -/
theorem Visited.mirrors (hvisited : Visited options record rule path node)
    (h : rule.Mirrors options definition) :
    ∃ value, follow readItems definition path = some value ∧ node.Mirrors options value := by
  induction hvisited with
  | root => exact ⟨definition, rfl, h⟩
  | child _ _ ih =>
    obtain ⟨value, hvalue, hmirrors⟩ := ih
    cases value with
    | object members =>
      obtain ⟨item, hitem, hchild⟩ := MirrorsAll.exists_item hmirrors.2.2
      refine ⟨item, ?_, hchild⟩
      rw [follow_concat, hvalue, Option.bind_some, readItems_object, hitem]
    | _ => exact hmirrors.elim

end Rule

/-! ## Explanations -/

namespace Session

variable {definition record : Json} {options : RuleOptions} {s : Session} {e : Explanation}

/-- A line of an explanation shows a field rule of the definition: its path
leads to the object that the rule was read from, among the items that are
read.  Among all items that object stands at one place only, each index of
the path being the number of objects in front of the position, and the
path is that place exactly if nothing in front is passed over. -/
theorem conditions_lead_to_fieldRules (h : IsReading definition options s)
    (he : s.explain record = .ok e) :
    ∀ line ∈ e.conditions, ∃ (m : Match) (members : List (String × Json)) (positions : List Nat),
      line = m.text ∧ members.lookup "condition" = none ∧ m.rule.Mirrors options members ∧
      follow readItems definition m.path = some (.object members) ∧
      follow ruleItems definition positions = some (.object members) ∧
      (∀ positions' target, Places definition positions' m.path target ↔
        positions' = positions ∧ target = .object members) ∧
      (positions = m.path ↔ NothingSkipped definition positions) := by
  intro line hline
  obtain ⟨found, steps, explains⟩ := exists_explains he
  rw [explains.conditions] at hline
  obtain ⟨m, hm, rfl⟩ := List.mem_map.mp hline
  obtain ⟨hvisited, -⟩ := (explains.mem_found m).mp hm
  rw [h.sameOptions] at hvisited
  obtain ⟨value, hvalue, hmirrors⟩ :=
    hvisited.mirrors ((Rule.ofJson_eq_ok_iff_mirrors definition s.root).mp h.tree)
  obtain ⟨positions, hplaces⟩ := exists_places hvalue
  cases value with
  | object members =>
    refine ⟨m, members, positions, rfl, hmirrors.1, hmirrors.2, hvalue, hplaces.follow_positions,
      fun positions' target => ⟨fun h' => ?_, fun h' => ?_⟩, hplaces.eq_iff⟩
    · exact ⟨h'.unique hplaces, Option.some.inj (h'.follow_path.symm.trans hvalue)⟩
    · obtain ⟨rfl, rfl⟩ := h'
      exact hplaces
  | _ => exact hmirrors.elim

/-- The object of a field rule. -/
def fieldMembers : List (String × Json) :=
  [("field", .string "a"), ("operator", .string "equal"), ("type", .string "boolean"),
    ("value", .bool true)]

/-- A condition of one child, with an item in front that is passed over. -/
def skipping : Session where
  definition := .object [("condition", .string "OR"),
    ("rules", .array [.null, .object fieldMembers])]
  root := .condition .or false
    [.field ⟨"a", .boolean, .equal, false, some (.bool true), [some (.boolean true)]⟩]
  options := {}
  requiredFields := ["a"]
  tracing := false

theorem isReading_skipping : IsReading skipping.definition {} skipping where
  sameDefinition := rfl
  sameOptions := rfl
  tree := by rfl
  fields := by decide +kernel

theorem explain_skipping : skipping.explain (.object [("a", .bool true)]) =
    .ok ⟨true, ["root.rules[0]: `a` Equal true"], []⟩ := by
  decide +kernel

theorem path_of_explain_skipping {m : Match} (h : "root.rules[0]: `a` Equal true" = m.text) :
    m.path = [0] := by
  have hfirst : Match.text ⟨[0], ⟨"a", .boolean, .equal, false, some (.bool true), []⟩⟩ =
      "root.rules[0]: `a` Equal true" := by
    decide +kernel
  exact (Match.path_eq_of_text_eq (hfirst.trans h)).symm

/-- Among all items the path of a line can lead to something else. -/
theorem not_conditions_lead_by_position : ¬ ∀ (definition : Json) (options : RuleOptions)
    (s : Session) (record : Json) (e : Explanation), IsReading definition options s →
      s.explain record = .ok e → ∀ line ∈ e.conditions,
        ∃ (m : Match) (members : List (String × Json)), line = m.text ∧
          follow ruleItems definition m.path = some (.object members) ∧
          m.rule.Mirrors options members := by
  intro h
  obtain ⟨m, members, hline, hfollow, -⟩ :=
    h _ _ _ _ _ isReading_skipping explain_skipping _ List.mem_cons_self
  rw [path_of_explain_skipping hline] at hfollow
  cases hfollow

/-- The first child of the condition is the second item. -/
theorem conditions_lead_to_fieldRules_skipping : ∃ (m : Match) (members : List (String × Json)),
    m.text = "root.rules[0]: `a` Equal true" ∧ m.rule.Mirrors {} members ∧
      follow readItems skipping.definition m.path = some (.object members) ∧
      follow ruleItems skipping.definition [1] = some (.object members) := by
  obtain ⟨m, members, positions, hline, -, hmirrors, hpath, hpositions, hplaces, -⟩ :=
    conditions_lead_to_fieldRules isReading_skipping explain_skipping _ List.mem_cons_self
  have hplace : Places skipping.definition [1] [0] (.object fieldMembers) := .inside rfl rfl .here
  rw [← path_of_explain_skipping hline] at hplace
  rw [← ((hplaces _ _).mp hplace).1] at hpositions
  exact ⟨m, members, hline.symm, hmirrors, hpath, hpositions⟩

end Session

end RecordSieve
