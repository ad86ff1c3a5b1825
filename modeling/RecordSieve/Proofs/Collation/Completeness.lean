/-
RecordSieve.Proofs.Collation.Completeness — for which needles the search
is complete.

What `contains` finds occurs, and a text that starts with the needle is
found; but an occurrence can be missed if the needle recurs at a mark.
That is no accident of the proof.  If the needle recurs, the needle and
then once more what follows its front part is a text that ends with the
needle (`suffix_overlap`) and that the search passes over
(`search_overlap_eq_false`): the needle at the start of it is followed by
the mark, and too little is left behind it.  Such a text is some string,
because decomposed text put together in this way is decomposed
(`decompose_overlap`).
-/
import RecordSieve.Proofs.Collation.Relaxation
import RecordSieve.Proofs.Text.NormalForm

namespace RecordSieve.Collation

open Text

variable {flags : CompareFlags} {needle : List Char} {a b : String}

/-! ## What is found -/

/-- A text that starts with the needle is found at once. -/
theorem contains_of_startsWith (h : startsWith flags a b = true) : contains flags a b = true := by
  obtain ⟨rest, hfold, hends⟩ := startsWith_eq_true_iff.mp h
  rw [contains, hfold]
  generalize fold flags b = needle
  rcases htext : needle ++ rest with _ | ⟨c, cs⟩
  · obtain ⟨rfl, rfl⟩ := List.append_eq_nil_iff.mp htext
    simpa [search] using hends
  · have hprefix : needle.isPrefixOf (c :: cs) = true :=
      List.isPrefixOf_iff_prefix.mpr ⟨rest, htext⟩
    rw [search, if_pos hprefix, ← htext, List.drop_left, hends, Bool.true_or]

theorem occurs_of_endsWith (h : endsWith flags a b = true) :
    Occurs flags (fold flags b) (fold flags a) := by
  obtain ⟨front, hfront⟩ := List.isSuffixOf_iff_suffix.mp h
  exact ⟨front, [], by rw [List.append_nil, hfront], by simp [endsCharacter]⟩

/-! ## What is passed over -/

theorem search_skip (front rest : List Char) :
    search flags needle front.length (front ++ rest) = search flags needle 0 rest := by
  induction front with
  | nil => rfl
  | cons c front ih => rw [List.length_cons, List.cons_append, search, ih]

/-- A needle that a mark follows, with less than a needle behind it, is not found. -/
theorem search_overlap_eq_false {mark : Char} {after : List Char}
    (haccents : flags.ignoreAccents = false) (hmark : isMark mark = true)
    (hshort : (mark :: after).length < needle.length) :
    search flags needle 0 (needle ++ mark :: after) = false := by
  cases needle with
  | nil => simp at hshort
  | cons c cs =>
    have hprefix : (c :: cs).isPrefixOf (c :: (cs ++ mark :: after)) = true :=
      List.isPrefixOf_iff_prefix.mpr ⟨mark :: after, rfl⟩
    have hends : endsCharacter flags (mark :: after) = false := by
      simp [endsCharacter, haccents, hmark]
    have hdrop : (c :: (cs ++ mark :: after)).drop (c :: cs).length = mark :: after := by
      rw [← List.cons_append, List.drop_left]
    rw [List.cons_append, search, if_pos hprefix, hdrop, hends, Bool.false_or]
    rw [List.length_cons, Nat.add_sub_cancel, search_skip, ← Bool.not_eq_true]
    intro hfound
    obtain ⟨front, rest, hrest, -⟩ := occurs_of_search hfound
    have hlength := congrArg List.length hrest
    simp only [List.length_append] at hlength
    omega

/-- The needle, and once more what follows its front part, ends with the needle. -/
theorem suffix_overlap {n : Nat} (h : needle.take n <:+ needle) :
    needle <:+ needle ++ needle.drop n := by
  obtain ⟨front, hfront⟩ := h
  refine ⟨front, ?_⟩
  calc front ++ needle
      = front ++ (needle.take n ++ needle.drop n) := by rw [List.take_append_drop]
    _ = needle ++ needle.drop n := by rw [← List.append_assoc, hfront]

/-! ## Folding letter by letter -/

/-- With accents counting, a letter is folded to one letter. -/
theorem foldChars_singleton (haccents : flags.ignoreAccents = false) {c : Char}
    (hc : c ≠ dottedCapitalI) : ∃ d, foldChars flags [c] = [d] := by
  rw [foldChars, haccents, if_neg Bool.false_ne_true]
  split
  · rw [lowercaseAll, List.flatMap_singleton]
    exact lowercase_eq_singleton hc
  · exact ⟨c, rfl⟩

theorem length_foldChars (haccents : flags.ignoreAccents = false) {cs : List Char}
    (hcs : dottedCapitalI ∉ cs) : (foldChars flags cs).length = cs.length := by
  induction cs with
  | nil => simp [foldChars, stripMarks, lowercaseAll]
  | cons c cs ih =>
    rw [List.mem_cons, not_or] at hcs
    obtain ⟨d, hd⟩ := foldChars_singleton haccents (Ne.symm hcs.1)
    rw [← List.singleton_append, foldChars_append, List.length_append, ih hcs.2, hd,
      List.length_append]
    rfl

theorem foldChars_take_drop (haccents : flags.ignoreAccents = false) {cs : List Char}
    (hcs : dottedCapitalI ∉ cs) (n : Nat) :
    (foldChars flags cs).take n = foldChars flags (cs.take n) ∧
      (foldChars flags cs).drop n = foldChars flags (cs.drop n) := by
  by_cases hn : n ≤ cs.length
  · have hlength : (foldChars flags (cs.take n)).length = n := by
      rw [length_foldChars haccents fun hmem => hcs (List.mem_of_mem_take hmem),
        List.length_take_of_le hn]
    have hsplit : foldChars flags cs =
        foldChars flags (cs.take n) ++ foldChars flags (cs.drop n) := by
      rw [← foldChars_append, List.take_append_drop]
    rw [hsplit]
    exact ⟨List.take_left' hlength, List.drop_left' hlength⟩
  · have hn : cs.length ≤ n := Nat.le_of_not_le hn
    have hn' : (foldChars flags cs).length ≤ n := length_foldChars haccents hcs ▸ hn
    rw [List.take_of_length_le hn', List.take_of_length_le hn, List.drop_of_length_le hn',
      List.drop_of_length_le hn]
    exact ⟨rfl, by simp [foldChars, stripMarks, lowercaseAll]⟩

/-- Letters that are folded to one may stand before the same letter. -/
theorem follows_of_foldChars_eq (haccents : flags.ignoreAccents = false) {c d e : Char}
    (hc : c ≠ dottedCapitalI) (h : foldChars flags [c] = foldChars flags [d])
    (hfollows : Follows c e) : Follows d e := by
  simp only [foldChars, haccents, Bool.false_eq_true, if_false] at h
  split at h
  · rw [lowercaseAll, lowercaseAll, List.flatMap_singleton, List.flatMap_singleton] at h
    exact follows_of_lowercase_eq hc h hfollows
  · rwa [← List.singleton_inj.mp h]

/-! ## A text that is missed -/

/-- If a text is folded to one that ends with the fold of a front part,
what follows the front part may follow the text. -/
theorem follows_of_suffix (haccents : flags.ignoreAccents = false) {front rest : List Char}
    {x y z : Char} (hdotted : dottedCapitalI ∉ front ++ y :: z :: rest)
    (horder : (front ++ y :: z :: rest).IsChain Follows)
    (hsuffix : foldChars flags (front ++ [y]) <:+ foldChars flags (front ++ y :: z :: rest))
    (hx : (front ++ y :: z :: rest).getLast? = some x) : Follows x z := by
  have hfollows : Follows y z := (List.isChain_append_cons_cons.mp horder).2.1
  obtain ⟨init, hinit⟩ := List.getLast?_eq_some_iff.mp hx
  have hy : y ≠ dottedCapitalI := fun h => hdotted (by simp [h])
  have hx : x ≠ dottedCapitalI := fun h => hdotted (by rw [hinit]; simp [h])
  obtain ⟨fy, hfy⟩ := foldChars_singleton haccents hy
  obtain ⟨fx, hfx⟩ := foldChars_singleton haccents hx
  obtain ⟨before, hbefore⟩ := hsuffix
  rw [hinit, foldChars_append, foldChars_append, ← List.append_assoc] at hbefore
  have hlast : foldChars flags [y] = foldChars flags [x] :=
    (List.append_inj' hbefore (by rw [hfy, hfx]; rfl)).2
  exact follows_of_foldChars_eq haccents hy hlast hfollows

/-- Decomposed text, and once more what follows a front part of it that
it ends with, is decomposed. -/
theorem decompose_overlap (haccents : flags.ignoreAccents = false) {cs : List Char} {n : Nat}
    (hchars : ∀ c ∈ cs, Decomposition.ofChar c = [c]) (hdotted : dottedCapitalI ∉ cs)
    (horder : cs.IsChain Follows) (hn : 0 < n) (hlength : n < cs.length)
    (hsuffix : foldChars flags (cs.take n) <:+ foldChars flags cs) :
    decompose (cs ++ cs.drop n) = cs ++ cs.drop n := by
  refine decompose_of_isChain (fun c hc => ?_) (List.isChain_append.mpr ⟨horder, ?_, ?_⟩)
  · rcases List.mem_append.mp hc with hc | hc
    · exact hchars c hc
    · exact hchars c (List.mem_of_mem_drop hc)
  · exact horder.suffix (List.drop_suffix n cs)
  · -- Where the pieces meet, the last letter stands for the last one of the front part.
    intro x hx z hz
    obtain ⟨front, y, hfront⟩ : ∃ front y, cs.take n = front ++ [y] := by
      refine (List.eq_nil_or_concat' _).resolve_left fun hnil => ?_
      rcases List.take_eq_nil_iff.mp hnil with rfl | rfl
      · exact Nat.lt_irrefl 0 hn
      · exact Nat.not_lt_zero n hlength
    obtain ⟨rest, hrest⟩ := List.head?_eq_some_iff.mp hz
    have hcs : cs = front ++ y :: z :: rest := by
      rw [← List.take_append_drop n cs, hfront, hrest, List.append_assoc, List.singleton_append]
    rw [hfront] at hsuffix
    rw [hcs] at hdotted horder hsuffix hx
    exact follows_of_suffix haccents hdotted horder hsuffix hx

/-- Of a needle that recurs at a mark some text ends with it and is not found. -/
theorem exists_missed (haccents : flags.ignoreAccents = false)
    (hrecurs : RecursAtMark (fold flags b)) :
    ∃ a, endsWith flags a b = true ∧ contains flags a b = false := by
  obtain ⟨n, hlength, hn, hmark, hsuffix⟩ := hrecurs
  have hdotted := dottedCapitalI_not_mem_decompose b.toList
  obtain ⟨htake, hdrop⟩ := foldChars_take_drop haccents hdotted n
  have hdecompose : decompose (decompose b.toList ++ (decompose b.toList).drop n) =
      decompose b.toList ++ (decompose b.toList).drop n := by
    refine decompose_overlap haccents (fun c hc => ofChar_of_mem_decompose hc) hdotted
      (isChain_decompose _) hn ?_ ?_
    · rwa [← length_foldChars haccents hdotted]
    · rwa [← htake]
  let a := String.ofList (decompose b.toList ++ (decompose b.toList).drop n)
  have hfold : fold flags a = fold flags b ++ (fold flags b).drop n := by
    rw [fold_eq_foldChars, fold_eq_foldChars, String.toList_ofList, hdecompose, foldChars_append,
      hdrop]
  refine ⟨a, ?_, ?_⟩
  · rw [endsWith, hfold, List.isSuffixOf_iff_suffix]
    exact suffix_overlap hsuffix
  · rw [List.getElem?_eq_getElem hlength, Option.any_some] at hmark
    rw [contains, hfold, List.drop_eq_getElem_cons hlength]
    refine search_overlap_eq_false haccents hmark ?_
    rw [List.length_cons, List.length_drop]
    omega

/-! ## Completeness -/

/-- What is found occurs, and a text that starts with the needle is found.
The search is complete for a needle, and finds it wherever a text ends
with it, exactly if accents are ignored or the folded needle does not
recur at a mark. -/
theorem contains_complete_iff (flags : CompareFlags) (b : String) :
    (∀ a, contains flags a b = true → Occurs flags (fold flags b) (fold flags a)) ∧
    (∀ a, startsWith flags a b = true → contains flags a b = true) ∧
    ((∀ a, contains flags a b = true ↔ Occurs flags (fold flags b) (fold flags a)) ↔
      (flags.ignoreAccents = true ∨ ¬ RecursAtMark (fold flags b))) ∧
    ((∀ a, endsWith flags a b = true → contains flags a b = true) ↔
      (flags.ignoreAccents = true ∨ ¬ RecursAtMark (fold flags b))) := by
  have hcomplete : (flags.ignoreAccents = true ∨ ¬ RecursAtMark (fold flags b)) →
      ∀ a, contains flags a b = true ↔ Occurs flags (fold flags b) (fold flags a) := by
    intro hneedle a
    refine search_eq_true_iff fun haccents => ?_
    rw [haccents] at hneedle
    exact hneedle.resolve_left Bool.false_ne_true
  have hends : (∀ a, endsWith flags a b = true → contains flags a b = true) →
      flags.ignoreAccents = true ∨ ¬ RecursAtMark (fold flags b) := by
    intro hends
    by_contra hnot
    rw [not_or, Bool.not_eq_true, not_not] at hnot
    obtain ⟨a, hsuffix, hmissed⟩ := exists_missed hnot.1 hnot.2
    rw [hends a hsuffix] at hmissed
    cases hmissed
  refine ⟨fun a => occurs_of_search, fun a => contains_of_startsWith, ⟨fun h => ?_, hcomplete⟩,
    hends, fun h a hsuffix => ?_⟩
  · exact hends fun a hsuffix => (h a).mpr (occurs_of_endsWith hsuffix)
  · exact (hcomplete h a).mpr (occurs_of_endsWith hsuffix)

/-- A text ends with the needle and is not found to contain it: the first
acute accent is behind a match that covers where the second one begins. -/
theorem not_contains_iff_occurs : ¬ ∀ flags a b,
    (contains flags a b = true ↔ Occurs flags (fold flags b) (fold flags a)) ∧
      (endsWith flags a b = true → contains flags a b = true) := by
  intro h
  have hends : endsWith {} "\u00E1\u00E1a" "\u00E1a" = true := by decide +kernel
  have hmissed : contains {} "\u00E1\u00E1a" "\u00E1a" = false := by decide +kernel
  rw [(h {} "\u00E1\u00E1a" "\u00E1a").2 hends] at hmissed
  cases hmissed

end RecordSieve.Collation
