/-
RecordSieve.Proofs.Collation.Relaxation — comparing under more flags.

Flags that are added make a comparison coarser.  A text folded under the
larger flags is the text folded under the smaller ones and then under
those it lacks (`foldChars_beyond`), and folding goes piece by piece, so
a text that stands in another still stands there, at the same end of it.
A place where a match may end stays one (`endsCharacter_of_le`), because
lower case makes no mark out of a letter.

Equality, and the tests of both ends, hold on (`equal_of_le`,
`startsWith_of_le`, `endsWith_of_le`).  An occurrence stays an occurrence
(`occurs_of_le`), but more of them can be matches that the search passes
over, so it is found again only if the needle does not recur at a mark
(`contains_of_le`).
-/
import RecordSieve.Proofs.Collation.Search
import RecordSieve.Proofs.Text.LetterCase

namespace RecordSieve

namespace CompareFlags

/-- Flags are ordered by what they ignore. -/
instance : LE CompareFlags where
  le F G := (F.ignoreCase = true → G.ignoreCase = true) ∧
    (F.ignoreAccents = true → G.ignoreAccents = true)

instance (F G : CompareFlags) : Decidable (F ≤ G) := inferInstanceAs (Decidable (_ ∧ _))

/-- What `G` ignores and `F` does not. -/
def beyond (F G : CompareFlags) : CompareFlags :=
  ⟨G.ignoreCase && !F.ignoreCase, G.ignoreAccents && !F.ignoreAccents⟩

end CompareFlags

namespace Collation

open Text CompareFlags

variable {F G : CompareFlags} {a b : String}

/-! ## Folding -/

/-- A decomposed text as it is searched. -/
def foldChars (flags : CompareFlags) (cs : List Char) : List Char :=
  let cs := if flags.ignoreAccents then stripMarks cs else cs
  if flags.ignoreCase then lowercaseAll cs else cs

theorem fold_eq_foldChars (flags : CompareFlags) (a : String) :
    fold flags a = foldChars flags (decompose a.toList) := rfl

/-- Folding goes piece by piece. -/
theorem foldChars_append (flags : CompareFlags) (as bs : List Char) :
    foldChars flags (as ++ bs) = foldChars flags as ++ foldChars flags bs := by
  obtain ⟨ignoreCase, ignoreAccents⟩ := flags
  cases ignoreCase <;> cases ignoreAccents <;>
    simp [foldChars, stripMarks, lowercaseAll, List.filter_append, List.flatMap_append]

theorem stripMarks_lowercase {c : Char} (hc : c ≠ dottedCapitalI) :
    stripMarks (lowercase c) = if isMark c then [] else lowercase c := by
  cases hmark : isMark c with
  | true => simp [lowercase_of_isMark hmark, stripMarks, hmark]
  | false =>
    refine List.filter_eq_self.mpr fun d hd => ?_
    rw [not_isMark_of_mem_lowercase hc hmark hd]
    rfl

/-- Marks can be left out before or after lower case is taken. -/
theorem stripMarks_lowercaseAll {cs : List Char} (hcs : dottedCapitalI ∉ cs) :
    stripMarks (lowercaseAll cs) = lowercaseAll (stripMarks cs) := by
  induction cs with
  | nil => rfl
  | cons c cs ih =>
    rw [List.mem_cons, not_or] at hcs
    have hsplit : stripMarks (lowercaseAll (c :: cs)) =
        stripMarks (lowercase c) ++ stripMarks (lowercaseAll cs) := List.filter_append ..
    rw [hsplit, stripMarks_lowercase (Ne.symm hcs.1), ih hcs.2]
    cases hmark : isMark c <;> simp [stripMarks, lowercaseAll, hmark]

/-- Folding under the larger flags is folding under the smaller ones, and
then under those that they lack. -/
theorem foldChars_beyond (h : F ≤ G) {cs : List Char} (hcs : dottedCapitalI ∉ cs) :
    foldChars (F.beyond G) (foldChars F cs) = foldChars G cs := by
  obtain ⟨ignoreCase, ignoreAccents⟩ := F
  obtain ⟨ignoreCase', ignoreAccents'⟩ := G
  obtain ⟨hcase, haccents⟩ := h
  cases ignoreCase <;> cases ignoreAccents <;> cases ignoreCase' <;> cases ignoreAccents' <;>
    simp_all [foldChars, beyond, stripMarks_lowercaseAll]

theorem fold_of_le (h : F ≤ G) (a : String) : fold G a = foldChars (F.beyond G) (fold F a) :=
  (foldChars_beyond h (dottedCapitalI_not_mem_decompose _)).symm

/-- A fold that keeps case has no capital I with a dot. -/
theorem dottedCapitalI_not_mem_fold (h : F.ignoreCase = false) (a : String) :
    dottedCapitalI ∉ fold F a := by
  intro hmem
  rw [fold_eq_foldChars, foldChars, h, if_neg Bool.false_ne_true] at hmem
  split at hmem
  · exact dottedCapitalI_not_mem_decompose _ (List.mem_filter.mp hmem).1
  · exact dottedCapitalI_not_mem_decompose _ hmem

/-! ## Where matches end -/

/-- A letter that is no mark begins its lower case, and none of that is a mark. -/
theorem endsCharacter_lowercaseAll {rest : List Char} (hrest : dottedCapitalI ∉ rest)
    (h : endsCharacter F rest = true) : endsCharacter F (lowercaseAll rest) = true := by
  cases rest with
  | nil => exact h
  | cons c cs =>
    rw [List.mem_cons, not_or] at hrest
    obtain ⟨d, hd⟩ := lowercase_eq_singleton (Ne.symm hrest.1)
    rw [lowercaseAll, List.flatMap_cons, hd, List.singleton_append]
    simp only [endsCharacter, Bool.or_eq_true, Bool.not_eq_true'] at h ⊢
    refine h.imp_right fun hmark => ?_
    exact not_isMark_of_mem_lowercase (Ne.symm hrest.1) hmark (hd ▸ List.mem_singleton_self d)

/-- A match may still end where it could. -/
theorem endsCharacter_of_le (h : F ≤ G) {rest : List Char}
    (hrest : F.ignoreCase = false → dottedCapitalI ∉ rest) (hends : endsCharacter F rest = true) :
    endsCharacter G (foldChars (F.beyond G) rest) = true := by
  cases haccents : G.ignoreAccents with
  | true => simp [endsCharacter, haccents]
  | false =>
    -- Accents count on both sides, so folding has lower case to take at most.
    have haccents' : F.ignoreAccents = false :=
      Bool.eq_false_iff.mpr fun hF => by simp [h.2 hF] at haccents
    have hends' : endsCharacter G rest = true := by
      simpa [endsCharacter, haccents, haccents'] using hends
    rw [foldChars, beyond, haccents, haccents']
    cases hcase : G.ignoreCase && !F.ignoreCase with
    | false => simpa [hcase] using hends'
    | true =>
      rw [Bool.and_eq_true, Bool.not_eq_true'] at hcase
      simpa [hcase] using endsCharacter_lowercaseAll (hrest hcase.2) hends'

/-- In a text, a match may still end where it could. -/
theorem endsCharacter_fold_of_le (h : F ≤ G) {front rest : List Char}
    (hfold : fold F a = front ++ rest) (hends : endsCharacter F rest = true) :
    endsCharacter G (foldChars (F.beyond G) rest) = true := by
  refine endsCharacter_of_le h (fun hF hmem => ?_) hends
  refine dottedCapitalI_not_mem_fold hF a ?_
  rw [hfold]
  exact List.mem_append_right _ hmem

/-! ## Comparisons -/

/-- Strings that are equal stay equal. -/
theorem equal_of_le (h : F ≤ G) (hab : equal F a b = true) : equal G a b = true := by
  obtain ⟨hletters, haccents, hcase, htext⟩ := equal_iff.mp hab
  have haccentsOff : G.ignoreAccents = false → F.ignoreAccents = false := fun hG =>
    Bool.eq_false_iff.mpr fun hF => by simp [h.2 hF] at hG
  have hcaseOff : G.ignoreCase = false → F.ignoreCase = false := fun hG =>
    Bool.eq_false_iff.mpr fun hF => by simp [h.1 hF] at hG
  -- Without flags the texts are the same, and under any flags so are their keys.
  have hsame : F.ignoreCase = false → F.ignoreAccents = false →
      decompose a.toList = decompose b.toList := fun hc ha =>
    htext (by obtain ⟨ignoreCase, ignoreAccents⟩ := F; cases hc; cases ha; rfl)
  refine equal_iff.mpr ⟨hletters, fun hG => haccents (haccentsOff hG), fun hG => ?_, fun hG => ?_⟩
  · cases hF : F.ignoreAccents with
    | false => rw [caseKey, caseKey, hsame (hcaseOff hG) hF]
    | true => simpa [caseKey, hF, h.2 hF] using hcase (hcaseOff hG)
  · subst hG
    exact hsame (hcaseOff rfl) (haccentsOff rfl)

/-- An occurrence stays an occurrence. -/
theorem occurs_of_le (h : F ≤ G) (hab : Occurs F (fold F b) (fold F a)) :
    Occurs G (fold G b) (fold G a) := by
  obtain ⟨front, rest, hhay, hends⟩ := hab
  refine ⟨foldChars (F.beyond G) front, foldChars (F.beyond G) rest, ?_,
    endsCharacter_fold_of_le h hhay hends⟩
  rw [fold_of_le h, fold_of_le h, hhay, foldChars_append, foldChars_append]

theorem startsWith_eq_true_iff : startsWith F a b = true ↔
    ∃ rest, fold F a = fold F b ++ rest ∧ endsCharacter F rest = true := by
  rw [startsWith, Bool.and_eq_true, List.isPrefixOf_iff_prefix]
  constructor
  · rintro ⟨⟨rest, hrest⟩, hends⟩
    rw [← hrest, List.drop_left] at hends
    exact ⟨rest, hrest.symm, hends⟩
  · rintro ⟨rest, hrest, hends⟩
    rw [hrest, List.drop_left]
    exact ⟨List.prefix_append _ _, hends⟩

theorem startsWith_of_le (h : F ≤ G) (hab : startsWith F a b = true) :
    startsWith G a b = true := by
  obtain ⟨rest, hrest, hends⟩ := startsWith_eq_true_iff.mp hab
  refine startsWith_eq_true_iff.mpr ⟨foldChars (F.beyond G) rest, ?_,
    endsCharacter_fold_of_le h hrest hends⟩
  rw [fold_of_le h, fold_of_le h, hrest, foldChars_append]

theorem endsWith_of_le (h : F ≤ G) (hab : endsWith F a b = true) : endsWith G a b = true := by
  rw [endsWith, List.isSuffixOf_iff_suffix] at hab ⊢
  obtain ⟨front, hfront⟩ := hab
  rw [fold_of_le h, fold_of_le h, ← hfront, foldChars_append]
  exact List.suffix_append _ _

/-- What is contained stays contained, unless case comes to be ignored
with accents still counting, and the needle recurs at a mark. -/
theorem contains_of_le (h : F ≤ G)
    (hneedle : F ≠ G → G.ignoreAccents = false → ¬ RecursAtMark (fold G b))
    (hab : contains F a b = true) : contains G a b = true := by
  by_cases hFG : F = G
  · rwa [← hFG]
  · exact (search_eq_true_iff (hneedle hFG)).mpr (occurs_of_le h (occurs_of_search hab))

end Collation

end RecordSieve
