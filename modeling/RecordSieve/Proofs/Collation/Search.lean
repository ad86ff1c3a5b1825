/-
RecordSieve.Proofs.Collation.Search — what the search for a text finds.

A needle occurs in a text where a match may end, that is before no mark
(`Occurs`).  The search finds nothing else (`occurs_of_search`), but it
can miss an occurrence: a match that may not end where it does is passed
over as a whole, with all that begins inside it.

Only one kind of needle can be missed in this way.  For an occurrence to
begin inside a match, an end of the needle must begin the needle again;
and the match must be followed by a mark, which then stands in the needle
after that part.  `RecursAtMark` says so of the needle alone, and every
other needle is found wherever it occurs (`search_eq_true_iff`).
-/
import RecordSieve.Proofs.Collation.Congruence

namespace RecordSieve.Collation

open Text

variable {flags : CompareFlags} {needle hay : List Char}

/-- The needle stands in the text, and a match may end where it does. -/
def Occurs (flags : CompareFlags) (needle hay : List Char) : Prop :=
  ∃ front rest, hay = front ++ needle ++ rest ∧ endsCharacter flags rest = true

/-- A front part of the needle, short of the whole, is its end as well,
and in the needle a mark follows it. -/
def RecursAtMark (needle : List Char) : Prop :=
  ∃ n < needle.length, 0 < n ∧ needle[n]?.any isMark = true ∧ needle.take n <:+ needle

instance (needle : List Char) : Decidable (RecursAtMark needle) :=
  inferInstanceAs (Decidable (∃ n < needle.length, _ ∧ _ ∧ _))

theorem recursAtMark_of_append {border rest : List Char} {mark : Char} (hborder : border ≠ [])
    (hmark : isMark mark = true) (hsuffix : border <:+ border ++ mark :: rest) :
    RecursAtMark (border ++ mark :: rest) := by
  refine ⟨border.length, by simp, List.length_pos_iff.mpr hborder, ?_, ?_⟩
  · simp [hmark]
  · rwa [List.take_left]

/-- Without marks nothing recurs at one. -/
theorem not_recursAtMark (h : ∀ c ∈ needle, isMark c = false) : ¬ RecursAtMark needle := by
  rintro ⟨n, hn, -, hmark, -⟩
  rw [List.getElem?_eq_getElem hn, Option.any_some, h _ (List.getElem_mem hn)] at hmark
  cases hmark

/-- What the search finds occurs. -/
theorem occurs_of_search {skip : Nat} (h : search flags needle skip hay = true) :
    Occurs flags needle hay := by
  fun_induction search flags needle skip hay with
  | case1 =>
    rw [Bool.and_eq_true, List.isEmpty_iff] at h
    exact ⟨[], [], by rw [h.1]; rfl, h.2⟩
  | case2 => cases h
  | case3 c cs hprefix ih =>
    obtain ⟨rest, hrest⟩ := List.isPrefixOf_iff_prefix.mp hprefix
    rw [Bool.or_eq_true] at h
    rcases h with h | h
    · rw [← hrest, List.drop_left] at h
      exact ⟨[], rest, hrest.symm, h⟩
    · obtain ⟨front, rest, hcs, hends⟩ := ih h
      exact ⟨c :: front, rest, by rw [hcs]; rfl, hends⟩
  | case4 c cs hprefix ih =>
    obtain ⟨front, rest, hcs, hends⟩ := ih h
    exact ⟨c :: front, rest, by rw [hcs]; rfl, hends⟩
  | case5 skip c cs ih =>
    obtain ⟨front, rest, hcs, hends⟩ := ih h
    exact ⟨c :: front, rest, by rw [hcs]; rfl, hends⟩

/-- A match that may not end where it does is followed by a mark. -/
theorem exists_mark_of_not_endsCharacter {rest : List Char}
    (h : ¬ endsCharacter flags rest = true) :
    flags.ignoreAccents = false ∧ ∃ mark after, rest = mark :: after ∧ isMark mark = true := by
  cases rest with
  | nil => simp [endsCharacter] at h
  | cons mark after =>
    simp only [endsCharacter, Bool.or_eq_true, Bool.not_eq_true', not_or, Bool.not_eq_true,
      Bool.not_eq_false] at h
    exact ⟨h.1, mark, after, rfl, h.2⟩

/-- A needle that stands in a text twice, the second time beginning
inside the first, which is followed by a mark, recurs at a mark. -/
theorem recursAtMark_of_overlap {front rest after : List Char} {mark : Char}
    (h : front ++ needle ++ rest = needle ++ mark :: after) (hmark : isMark mark = true)
    (hfront : front ≠ []) (hlength : front.length < needle.length) : RecursAtMark needle := by
  have hprefix : front <+: needle := by
    refine List.prefix_of_prefix_length_le ?_ (List.prefix_append needle (mark :: after))
      (Nat.le_of_lt hlength)
    exact ⟨needle ++ rest, by rw [← h, List.append_assoc]⟩
  -- What the needle has after the front is the part that both places share.
  obtain ⟨border, hborder⟩ := hprefix
  have hne : border ≠ [] := by
    rintro rfl
    rw [List.append_nil] at hborder
    rw [hborder] at hlength
    exact Nat.lt_irrefl _ hlength
  have hshared : needle ++ rest = border ++ mark :: after := by
    rw [List.append_assoc] at h
    have h' := h.trans (congrArg (· ++ mark :: after) hborder.symm)
    rw [List.append_assoc] at h'
    exact List.append_cancel_left h'
  have hshorter : (border ++ [mark]).length ≤ needle.length := by
    have := congrArg List.length hborder
    have := List.length_pos_iff.mpr hfront
    simp only [List.length_append, List.length_cons, List.length_nil] at *
    omega
  have hmarked : border ++ [mark] <+: needle := by
    refine List.prefix_of_prefix_length_le ?_ (List.prefix_append needle rest) hshorter
    exact ⟨after, by rw [hshared, List.append_assoc]; rfl⟩
  obtain ⟨tail, htail⟩ := hmarked
  rw [List.append_assoc, List.singleton_append] at htail
  rw [← htail]
  exact recursAtMark_of_append hne hmark (htail ▸ ⟨front, hborder⟩)

/-- A needle that does not recur at a mark is found from any place before
an occurrence. -/
theorem search_of_append (hneedle : flags.ignoreAccents = false → ¬ RecursAtMark needle)
    {skip : Nat} {front rest : List Char} (hhay : hay = front ++ needle ++ rest)
    (hskip : skip ≤ front.length) (hends : endsCharacter flags rest = true) :
    search flags needle skip hay = true := by
  -- The occurrence is never passed over: it begins at or after the place of the search.
  fun_induction search flags needle skip hay generalizing front with
  | case1 =>
    simp only [List.nil_eq, List.append_eq_nil_iff] at hhay
    obtain ⟨⟨-, rfl⟩, rfl⟩ := hhay
    simpa using hends
  | case2 =>
    simp only [List.nil_eq, List.append_eq_nil_iff] at hhay
    obtain ⟨⟨rfl, -⟩, -⟩ := hhay
    exact absurd hskip (Nat.not_succ_le_zero _)
  | case3 c cs hprefix ih =>
    obtain ⟨after, hafter⟩ := List.isPrefixOf_iff_prefix.mp hprefix
    rw [← hafter, List.drop_left, Bool.or_eq_true]
    refine Decidable.or_iff_not_imp_left.mpr fun hnot => ?_
    obtain ⟨haccents, mark, after, rfl, hmark⟩ := exists_mark_of_not_endsCharacter hnot
    cases front with
    | nil =>
      have hrest : rest = mark :: after :=
        List.append_cancel_left (hhay.symm.trans hafter.symm)
      exact absurd (hrest ▸ hends) hnot
    | cons d front =>
      -- An occurrence inside the match would make the needle recur.
      have hbehind : ¬ (d :: front).length < needle.length := fun hinside =>
        hneedle haccents
          (recursAtMark_of_overlap (hhay.symm.trans hafter.symm) hmark (List.cons_ne_nil _ _)
            hinside)
      rw [List.length_cons] at hbehind
      exact ih (List.cons.inj hhay).2 (by omega)
  | case4 c cs hprefix ih =>
    cases front with
    | nil =>
      refine absurd ?_ hprefix
      rw [List.isPrefixOf_iff_prefix, hhay]
      exact List.prefix_append needle rest
    | cons d front => exact ih (List.cons.inj hhay).2 (Nat.zero_le _)
  | case5 skip c cs ih =>
    cases front with
    | nil => exact absurd hskip (Nat.not_succ_le_zero _)
    | cons d front => exact ih (List.cons.inj hhay).2 (Nat.le_of_succ_le_succ hskip)

/-- A needle that does not recur at a mark is found exactly where it occurs. -/
theorem search_eq_true_iff (hneedle : flags.ignoreAccents = false → ¬ RecursAtMark needle) :
    search flags needle 0 hay = true ↔ Occurs flags needle hay := by
  constructor
  · exact occurs_of_search
  · rintro ⟨front, rest, hhay, hends⟩
    exact search_of_append hneedle hhay (Nat.zero_le _) hends

end RecordSieve.Collation
