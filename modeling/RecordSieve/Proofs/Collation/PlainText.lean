/-
RecordSieve.Proofs.Collation.PlainText — texts that folding leaves apart.

Over a plain alphabet, of characters that are their own decomposition, no
marks, and have different lower cases, folding renames the letters of a
text one for one.  A text so stands at the start or the end of another
under some flags exactly when it does under none: the tests of both ends
are those of the texts themselves (`Plain.startsWith_iff`,
`Plain.endsWith_iff`).
-/
import RecordSieve.Proofs.Collation.Relaxation

namespace RecordSieve.Collation

open Text Decomposition

/-- Characters that folding keeps apart. -/
structure Plain (alphabet : List Char) : Prop where
  whole : ∀ c ∈ alphabet, ofChar c = [c]
  unmarked : ∀ c ∈ alphabet, combiningClass c = 0 ∧ isMark c = false
  distinct : ∀ c ∈ alphabet, ∀ d ∈ alphabet, lowercase c = lowercase d → c = d

instance (alphabet : List Char) : Decidable (Plain alphabet) :=
  decidable_of_iff (alphabet.all fun c =>
      ofChar c == [c] && (combiningClass c == 0 && !isMark c) &&
        alphabet.all fun d => lowercase c != lowercase d || c == d) <| by
    simp only [List.all_eq_true, Bool.and_eq_true, Bool.or_eq_true, beq_iff_eq, bne_iff_ne,
      Bool.not_eq_true', ne_eq, ← Decidable.imp_iff_not_or]
    exact ⟨fun h => ⟨fun c hc => (h c hc).1.1, fun c hc => (h c hc).1.2, fun c hc => (h c hc).2⟩,
      fun h c hc => ⟨⟨h.whole c hc, h.unmarked c hc⟩, h.distinct c hc⟩⟩

/-- What a letter is folded to, where that is one letter. -/
def foldedLetter (flags : CompareFlags) (c : Char) : Char :=
  if flags.ignoreCase then (lowercase c).headD c else c

namespace Plain

variable {alphabet cs ds : List Char} {flags : CompareFlags} {a b : String}

theorem ne_dottedCapitalI (h : Plain alphabet) {c : Char} (hc : c ∈ alphabet) :
    c ≠ dottedCapitalI := by
  rintro rfl
  have hdotted := dottedCapitalI_not_mem_ofChar dottedCapitalI
  rw [h.whole _ hc] at hdotted
  exact hdotted List.mem_cons_self

theorem lowercase_eq (h : Plain alphabet) {c : Char} (hc : c ∈ alphabet) :
    lowercase c = [(lowercase c).headD c] := by
  obtain ⟨d, hd⟩ := lowercase_eq_singleton (h.ne_dottedCapitalI hc)
  rw [hd]
  rfl

theorem decompose_eq (h : Plain alphabet) (hcs : cs ⊆ alphabet) : decompose cs = cs := by
  induction cs with
  | nil => rfl
  | cons c cs ih =>
    obtain ⟨hc, hcs⟩ := List.cons_subset.mp hcs
    have hplace (es : List Char) : place c es = c :: es := by
      cases es <;> simp [place, (h.unmarked c hc).1]
    have hsplit : decompose (c :: cs) = place c (decompose cs) := by
      rw [decompose, List.flatMap_cons, h.whole c hc]
      rfl
    rw [hsplit, hplace, ih hcs]

theorem lowercaseAll_eq_map (h : Plain alphabet) (hcs : cs ⊆ alphabet) :
    lowercaseAll cs = cs.map fun c => (lowercase c).headD c := by
  induction cs with
  | nil => rfl
  | cons c cs ih =>
    obtain ⟨hc, hcs⟩ := List.cons_subset.mp hcs
    have hsplit : lowercaseAll (c :: cs) = lowercase c ++ lowercaseAll cs := List.flatMap_cons
    rw [hsplit, h.lowercase_eq hc, ih hcs]
    rfl

theorem foldChars_eq_map (h : Plain alphabet) (hcs : cs ⊆ alphabet) :
    foldChars flags cs = cs.map (foldedLetter flags) := by
  have hstrip : stripMarks cs = cs :=
    List.filter_eq_self.mpr fun c hc => by rw [(h.unmarked c (hcs hc)).2]; rfl
  unfold foldChars foldedLetter
  cases flags.ignoreAccents <;> cases flags.ignoreCase <;>
    simp [hstrip, h.lowercaseAll_eq_map hcs]

theorem fold_eq_map (h : Plain alphabet) (ha : a.toList ⊆ alphabet) :
    fold flags a = a.toList.map (foldedLetter flags) := by
  rw [fold_eq_foldChars, h.decompose_eq ha, h.foldChars_eq_map ha]

/-- No two letters are folded to one. -/
theorem eq_of_foldedLetter_eq (h : Plain alphabet) {c d : Char} (hc : c ∈ alphabet)
    (hd : d ∈ alphabet) (hcd : foldedLetter flags c = foldedLetter flags d) : c = d := by
  unfold foldedLetter at hcd
  split at hcd
  · refine h.distinct c hc d hd ?_
    rw [h.lowercase_eq hc, h.lowercase_eq hd, hcd]
  · exact hcd

theorem not_isMark_foldedLetter (h : Plain alphabet) {c : Char} (hc : c ∈ alphabet) :
    isMark (foldedLetter flags c) = false := by
  have hplain := (h.unmarked c hc).2
  unfold foldedLetter
  split
  · refine not_isMark_of_mem_lowercase (h.ne_dottedCapitalI hc) hplain ?_
    have hself := List.mem_singleton_self ((lowercase c).headD c)
    rwa [← h.lowercase_eq hc] at hself
  · exact hplain

theorem eq_of_map_foldedLetter_eq (h : Plain alphabet) (hcs : cs ⊆ alphabet)
    (hds : ds ⊆ alphabet) (hfold : cs.map (foldedLetter flags) = ds.map (foldedLetter flags)) :
    cs = ds := by
  induction cs generalizing ds with
  | nil => exact (List.map_eq_nil_iff.mp hfold.symm).symm
  | cons c cs ih =>
    cases ds with
    | nil => cases hfold
    | cons d ds =>
      rw [List.cons_subset] at hcs hds
      obtain ⟨hhead, htail⟩ := List.cons.inj hfold
      rw [h.eq_of_foldedLetter_eq hcs.1 hds.1 hhead, ih hcs.2 hds.2 htail]

/-- A match may end anywhere in a text of such letters. -/
theorem endsCharacter_map (h : Plain alphabet) (hcs : cs ⊆ alphabet) :
    endsCharacter flags (cs.map (foldedLetter flags)) = true := by
  cases cs with
  | nil => simp [endsCharacter]
  | cons c cs => simp [endsCharacter, h.not_isMark_foldedLetter (hcs List.mem_cons_self)]

theorem startsWith_iff (h : Plain alphabet) (ha : a.toList ⊆ alphabet) (hb : b.toList ⊆ alphabet) :
    startsWith flags a b = true ↔ b.toList <+: a.toList := by
  rw [startsWith_eq_true_iff, h.fold_eq_map ha, h.fold_eq_map hb]
  constructor
  · rintro ⟨rest, hrest, -⟩
    obtain ⟨front, hfront, hfold⟩ := List.prefix_map_iff.mp ⟨rest, hrest.symm⟩
    rwa [h.eq_of_map_foldedLetter_eq hb (List.Subset.trans hfront.subset ha) hfold]
  · rintro ⟨rest, hrest⟩
    rw [← hrest] at ha ⊢
    refine ⟨rest.map (foldedLetter flags), List.map_append, h.endsCharacter_map ?_⟩
    exact (List.append_subset.mp ha).2

theorem endsWith_iff (h : Plain alphabet) (ha : a.toList ⊆ alphabet) (hb : b.toList ⊆ alphabet) :
    endsWith flags a b = true ↔ b.toList <:+ a.toList := by
  rw [endsWith, List.isSuffixOf_iff_suffix, h.fold_eq_map ha, h.fold_eq_map hb]
  constructor
  · intro hsuffix
    obtain ⟨rear, hrear, hfold⟩ := List.suffix_map_iff.mp hsuffix
    rwa [h.eq_of_map_foldedLetter_eq hb (List.Subset.trans hrear.subset ha) hfold]
  · rintro ⟨front, hfront⟩
    rw [← hfront, List.map_append]
    exact List.suffix_append _ _

end Plain

end RecordSieve.Collation
