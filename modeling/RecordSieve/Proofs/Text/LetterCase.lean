/-
RecordSieve.Proofs.Text.LetterCase — lower case and marks do not meet.

A mark is its own lower case (`lowercase_of_isMark`), and the lower case
of any other character has no mark in it (`not_isMark_of_mem_lowercase`),
except for the capital I with a dot, which decomposed text does not hold.
Both are read off the tables: the letters that have a lower case, and the
letters that are one, lie in a few stretches without marks.
-/
import RecordSieve.Proofs.Text.Decomposition
import RecordSieve.Text.Mark

namespace RecordSieve.Text

/-- Stretches of code points that hold the letters with case, capital and
small, and no marks. -/
def casedStretches : List (Nat × Nat) := [
  (0x41, 0x29E), (0x370, 0x481), (0x48A, 0x586), (0x10A0, 0x10FF), (0x13A0, 0x13FD),
  (0x1C89, 0x1CBF), (0x1D79, 0x1D8E), (0x1E00, 0x1FFC), (0x2126, 0x2CEE), (0x2CF2, 0x2D2D),
  (0xA640, 0xA66D), (0xA680, 0xA69B), (0xA722, 0xA7F6), (0xAB53, 0xABBF), (0xFF21, 0xFF5A),
  (0x10400, 0x105BC), (0x10C80, 0x10CF2), (0x10D50, 0x10D65), (0x10D70, 0x10D85),
  (0x118A0, 0x118DF), (0x16E40, 0x16ED3), (0x1E900, 0x1E943)]

/-- Whether no range of one table meets a range of the other. -/
def apart (as bs : List (Nat × Nat)) : Bool :=
  as.all fun a => bs.all fun b => a.2.blt b.1 || b.2.blt a.1

theorem not_inRanges_of_apart {as bs : List (Nat × Nat)} {a : Nat × Nat} {n : Nat}
    (h : apart as bs = true) (ha : a ∈ as) (hn : a.1 ≤ n ∧ n ≤ a.2) : inRanges bs n = false := by
  refine Bool.eq_false_iff.mpr fun hin => ?_
  obtain ⟨b, hb, hn'⟩ := inRanges_eq_true_iff.mp hin
  have hab := List.all_eq_true.mp (List.all_eq_true.mp h a ha) b hb
  rw [Bool.or_eq_true, Nat.blt_eq, Nat.blt_eq] at hab
  omega

theorem casedStretches_apart_markRanges : apart casedStretches markRanges = true := by
  decide +kernel

/-- Whether all code points from `first` to `last` lie in one stretch. -/
def isCased (first last : Nat) : Bool :=
  casedStretches.any fun stretch => stretch.1.ble first && last.ble stretch.2

theorem lowercaseRuns_inside_casedStretches :
    ∀ run ∈ lowercaseRuns,
      (∃ stretch ∈ casedStretches, stretch.1 ≤ run.1 ∧ run.2.1 ≤ stretch.2) ∧
      ∃ stretch ∈ casedStretches,
        stretch.1 ≤ run.2.2.2 ∧ run.2.2.2 + (run.2.1 - run.1) ≤ stretch.2 := by
  have hcased {first last : Nat} (h : isCased first last = true) :
      ∃ stretch ∈ casedStretches, stretch.1 ≤ first ∧ last ≤ stretch.2 := by
    simpa [isCased, Nat.ble_eq] using h
  have hruns : (lowercaseRuns.all fun run => isCased run.1 run.2.1 &&
      isCased run.2.2.2 (run.2.2.2 + (run.2.1 - run.1))) = true := by decide +kernel
  intro run hrun
  obtain ⟨hletters, hsmall⟩ := (Bool.and_eq_true _ _).mp (List.all_eq_true.mp hruns run hrun)
  exact ⟨hcased hletters, hcased hsmall⟩

/-- The stretches hold characters only. -/
theorem toNat_ofNat_of_mem_stretch {stretch : Nat × Nat} (hstretch : stretch ∈ casedStretches)
    {n : Nat} (hn : stretch.1 ≤ n ∧ n ≤ stretch.2) : (Char.ofNat n).toNat = n := by
  have hvalid : ∀ stretch ∈ casedStretches,
      stretch.2 < 0xD800 ∨ 0xDFFF < stretch.1 ∧ stretch.2 < 0x110000 := by decide
  have hchar : n.isValidChar := by
    have := hvalid stretch hstretch
    rw [Nat.isValidChar]
    omega
  rw [Char.ofNat, dif_pos hchar]
  rfl

/-- A mark does not lie in a stretch of cased letters. -/
theorem not_isMark_of_mem_stretch {c : Char} {stretch : Nat × Nat}
    (hstretch : stretch ∈ casedStretches) (hc : stretch.1 ≤ c.toNat ∧ c.toNat ≤ stretch.2) :
    isMark c = false :=
  not_inRanges_of_apart casedStretches_apart_markRanges hstretch hc

/-- The lower case of a character is two characters, or one that a run
gives, or the character itself. -/
theorem lowercase_cases (c : Char) : c = dottedCapitalI ∨
    (∃ run ∈ lowercaseRuns, (run.1 ≤ c.toNat ∧ c.toNat ≤ run.2.1) ∧
      lowercase c = [Char.ofNat (run.2.2.2 + (c.toNat - run.1))]) ∨
    lowercase c = [c] := by
  by_cases hc : c = dottedCapitalI
  · exact .inl hc
  have hc' : c.toNat ≠ 0x130 := fun h => hc (Char.toNat_inj.mp h)
  rw [lowercase, if_neg hc']
  split
  · next first last step target hrun =>
    refine .inr (.inl ⟨_, List.mem_of_find?_eq_some hrun, ?_, rfl⟩)
    have hin := List.find?_some hrun
    simp only [inRun, Bool.and_eq_true, decide_eq_true_eq] at hin
    exact hin.1
  · exact .inr (.inr rfl)

/-- A mark is its own lower case. -/
theorem lowercase_of_isMark {c : Char} (h : isMark c = true) : lowercase c = [c] := by
  rcases lowercase_cases c with rfl | ⟨run, hrun, hin, -⟩ | hself
  · have hstretch : (0x41, 0x29E) ∈ casedStretches := List.mem_cons_self
    rw [not_isMark_of_mem_stretch hstretch (by decide)] at h
    cases h
  · obtain ⟨⟨stretch, hstretch, hletters⟩, -⟩ := lowercaseRuns_inside_casedStretches run hrun
    have hletter := not_isMark_of_mem_stretch (c := c) hstretch (by omega)
    rw [hletter] at h
    cases h
  · exact hself

/-- The lower case of a character that is no mark has no mark in it. -/
theorem not_isMark_of_mem_lowercase {c d : Char} (hc : c ≠ dottedCapitalI)
    (h : isMark c = false) (hd : d ∈ lowercase c) : isMark d = false := by
  rcases lowercase_cases c with hdotted | ⟨run, hrun, hin, hlower⟩ | hself
  · exact absurd hdotted hc
  · rw [hlower, List.mem_singleton] at hd
    obtain ⟨-, stretch, hstretch, hsmall⟩ := lowercaseRuns_inside_casedStretches run hrun
    have hcode := toNat_ofNat_of_mem_stretch (n := run.2.2.2 + (c.toNat - run.1)) hstretch
      (by omega)
    rw [hd]
    exact not_isMark_of_mem_stretch hstretch (by omega)
  · rw [hself, List.mem_singleton] at hd
    rw [hd, h]

end RecordSieve.Text
