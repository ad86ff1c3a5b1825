/-
RecordSieve.Proofs.Rule.NodePath — a line of an explanation says which
node it is about.

A line starts with the path of its node, and the first colon ends it, for
there is none in a path.  The path in turn can be read off its text, since
an index ends at the bracket after it.  So lines about different nodes
differ (`NodePath.text_injective`, `TraceStep.eq_of_text_eq`), and
lines of different kinds about one condition differ in the first letter
that follows (`TraceStep.letter?`).
-/
import RecordSieve.Proofs.Outcome
import RecordSieve.Rule.Explanation

namespace RecordSieve

open Decimal

/-- A text is cut in one way only at the first character of a kind. -/
theorem cut_unique {c : Char} {a b as bs : List Char} (ha : c ∉ a) (hb : c ∉ b)
    (h : a ++ c :: as = b ++ c :: bs) : a = b ∧ as = bs := by
  rcases List.append_eq_append_iff.mp h with ⟨d, rfl, hd⟩ | ⟨d, rfl, hd⟩
  · cases d with
    | nil => exact ⟨(List.append_nil a).symm, (List.cons.inj hd).2⟩
    | cons x d =>
      rw [(List.cons.inj hd).1] at hb
      simp at hb
  · cases d with
    | nil => exact ⟨List.append_nil b, (List.cons.inj hd).2.symm⟩
    | cons x d =>
      rw [(List.cons.inj hd).1] at ha
      simp at ha

theorem digits_injective : Function.Injective digits := by
  intro m n h
  have hm := natOfDigits?_digits m
  rw [h, natOfDigits?_digits] at hm
  exact (Option.some.inj hm).symm

theorem not_mem_digits {c : Char} (hc : isAsciiDigit c = false) (n : Nat) : c ∉ digits n := by
  intro h
  have hdigit := List.all_eq_true.mp (all_isAsciiDigit_digits n) c h
  rw [hc] at hdigit
  cases hdigit

/-! ## Paths -/

namespace NodePath

/-- One step down as text. -/
def segment (index : Nat) : List Char :=
  ['.', 'r', 'u', 'l', 'e', 's', '['] ++ (digits index ++ [']'])

theorem toList_segment (index : Nat) :
    (".rules[" ++ natText index ++ "]").toList = segment index := by
  simp [segment, natText]

theorem toList_text (path : NodePath) :
    path.text.toList = ['r', 'o', 'o', 't'] ++ path.flatMap segment := by
  rw [text, String.toList_append, String.toList_join, List.flatMap_map]
  simp only [toList_segment]
  rfl

theorem flatMap_segment_injective : Function.Injective fun path : NodePath => path.flatMap segment := by
  intro path path' h
  induction path generalizing path' with
  | nil =>
    cases path' with
    | nil => rfl
    | cons index path' => simp [segment] at h
  | cons index path ih =>
    cases path' with
    | nil => simp [segment] at h
    | cons index' path' =>
      have hrest : digits index ++ ']' :: path.flatMap segment =
          digits index' ++ ']' :: path'.flatMap segment := by
        simpa [segment] using h
      obtain ⟨hindex, hpath⟩ := cut_unique (not_mem_digits (by decide) index)
        (not_mem_digits (by decide) index') hrest
      rw [digits_injective hindex, ih hpath]

/-- Different paths have different texts. -/
theorem text_injective : Function.Injective text := by
  intro path path' h
  have htexts := congrArg String.toList h
  rw [toList_text, toList_text] at htexts
  exact flatMap_segment_injective (List.append_cancel_left htexts)

theorem colon_not_mem_text (path : NodePath) : ':' ∉ path.text.toList := by
  rw [toList_text, List.mem_append, List.mem_flatMap]
  rintro (h | ⟨index, -, h⟩)
  · exact absurd h (by decide)
  · simp [segment, not_mem_digits (c := ':') (by decide) index] at h

end NodePath

/-! ## Lines -/

theorem Match.path_eq_of_text_eq {a b : Match} (h : a.text = b.text) : a.path = b.path := by
  have hcut (m : Match) :
      m.text.toList = m.path.text.toList ++ ':' :: ' ' :: m.rule.friendly.toList := by
    simp [text, toString]
  have htexts := congrArg String.toList h
  rw [hcut, hcut] at htexts
  have hpath := (cut_unique (NodePath.colon_not_mem_text _) (NodePath.colon_not_mem_text _) htexts).1
  exact NodePath.text_injective (String.toList_inj.mp hpath)

namespace TraceStep

/-- The node that the step is about. -/
def path : TraceStep → NodePath
  | enter path _ _ => path
  | test path _ _ => path
  | decide path _ _ => path
  | negate path _ => path

/-- The first letter of what the line of a step says of a condition. -/
def letter? : TraceStep → Option Char
  | enter _ _ _ => some '开'
  | test _ _ _ => none
  | decide _ .and _ => some 'A'
  | decide _ .or _ => some 'O'
  | negate _ _ => some 'N'

theorem toList_text (step : TraceStep) : ∃ said,
    step.text.toList = step.path.text.toList ++ ':' :: ' ' :: said ∧
      ∀ c ∈ step.letter?, said.head? = some c := by
  cases step with
  | enter path connective childCount =>
    exact ⟨("开始评估 " ++ connective.name ++ " 组 (共 " ++ natText childCount ++ " 个子节点)").toList,
      by simp [text, TraceStep.path, toString], by simp [letter?]⟩
  | test path rule matched =>
    exact ⟨(rule.display ++ " => " ++ if matched then "MATCHED" else "NOT_MATCHED").toList,
      by simp [text, TraceStep.path, toString], by simp [letter?]⟩
  | decide path connective child =>
    refine ⟨(connective.name ++ " 短路 - 子节点 " ++ natText child).toList,
      by simp [text, TraceStep.path, toString], ?_⟩
    cases connective <;> simp [letter?, Connective.name]
  | negate path before =>
    exact ⟨("NOT 取反 " ++ boolText before ++ " => " ++ boolText (!before)).toList,
      by simp [text, TraceStep.path, toString], by simp [letter?]⟩

/-- Equal lines are about one node, and of one kind if it is a condition. -/
theorem eq_of_text_eq {a b : TraceStep} (h : a.text = b.text) :
    a.path = b.path ∧ ∀ c ∈ a.letter?, ∀ d ∈ b.letter?, c = d := by
  obtain ⟨said, ha, hletter⟩ := toList_text a
  obtain ⟨said', hb, hletter'⟩ := toList_text b
  rw [h, hb] at ha
  obtain ⟨hpath, hsaid⟩ :=
    cut_unique (NodePath.colon_not_mem_text _) (NodePath.colon_not_mem_text _) ha
  refine ⟨(NodePath.text_injective (String.toList_inj.mp hpath)).symm, fun c hc d hd => ?_⟩
  rw [(List.cons.inj hsaid).2] at hletter'
  exact Option.some.inj ((hletter c hc).symm.trans (hletter' d hd))

end TraceStep

end RecordSieve
