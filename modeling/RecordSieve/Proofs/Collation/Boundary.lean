/-
RecordSieve.Proofs.Collation.Boundary — whether a match cuts a character
in two.

A letter and the marks behind it are one character.  With accents
counting, a needle that is found leaves no mark behind that belongs to
its last letter: that is what `endsCharacter` asks of each match.  Of the
place where a match begins nothing is asked.  A needle whose folded text
begins with a mark is found behind any letter, although the mark is that
letter's; only a text that starts with the needle has it whole.

So a match stands whole exactly if the needle does not begin with a mark
or the text starts with it (`found_standsWhole_iff`), and of every needle
that begins with a mark there is a text in which it is found and stands
nowhere whole (`exists_found_cut`).
-/
import RecordSieve.Proofs.Collation.Completeness

namespace RecordSieve.Collation

open Text

variable {flags : CompareFlags} {needle hay front rest : List Char} {a b : String}

/-! ## Cuts -/

/-- The first character is a mark, which belongs to whatever stands in front. -/
def BeginsWithMark (cs : List Char) : Prop := cs.head?.any isMark = true

instance (cs : List Char) : Decidable (BeginsWithMark cs) := inferInstanceAs (Decidable (_ = true))

theorem not_beginsWithMark_nil : ¬ BeginsWithMark [] := by simp [BeginsWithMark]

theorem beginsWithMark_cons {c : Char} {cs : List Char} :
    BeginsWithMark (c :: cs) ↔ isMark c = true := by
  simp [BeginsWithMark]

theorem BeginsWithMark.append {cs : List Char} (h : BeginsWithMark cs) (rest : List Char) :
    BeginsWithMark (cs ++ rest) := by
  cases cs with
  | nil => exact absurd h not_beginsWithMark_nil
  | cons c cs => exact beginsWithMark_cons.mpr (beginsWithMark_cons.mp h)

/-- The needle stands in the text between `front` and `rest`, and no mark
is cut off from a letter at either of its ends. -/
structure StandsWhole (needle hay front rest : List Char) : Prop where
  split : hay = front ++ needle ++ rest
  beginsWhole : front ≠ [] → ¬ BeginsWithMark needle
  endsWhole : ¬ BeginsWithMark rest

/-- With accents counting, a match may end where no mark is cut off. -/
theorem endsCharacter_iff (haccents : flags.ignoreAccents = false) :
    endsCharacter flags rest = true ↔ ¬ BeginsWithMark rest := by
  cases rest with
  | nil => simp [endsCharacter, BeginsWithMark]
  | cons c cs => simp [endsCharacter, haccents, beginsWithMark_cons]

/-- An occurrence, with what is asked of its end spelled out. -/
theorem occurs_iff (haccents : flags.ignoreAccents = false) :
    Occurs flags needle hay ↔
      ∃ front rest, hay = front ++ needle ++ rest ∧ ¬ BeginsWithMark rest := by
  simp only [Occurs, endsCharacter_iff haccents]

theorem startsWith_iff_standsWhole (haccents : flags.ignoreAccents = false) :
    startsWith flags a b = true ↔
      ∃ rest, StandsWhole (fold flags b) (fold flags a) [] rest := by
  simp only [startsWith_eq_true_iff, endsCharacter_iff haccents]
  constructor
  · intro h
    obtain ⟨rest, hsplit, hends⟩ := h
    exact ⟨rest, hsplit, fun hne => absurd rfl hne, hends⟩
  · intro h
    obtain ⟨rest, hwhole⟩ := h
    exact ⟨rest, hwhole.split, hwhole.endsWhole⟩

theorem endsWith_iff_append :
    endsWith flags a b = true ↔ ∃ front, fold flags a = front ++ fold flags b := by
  simp only [endsWith, List.isSuffixOf_iff_suffix, List.IsSuffix, @eq_comm _ (fold flags a)]

/-- A needle that begins with a mark stands whole at the start of a text only. -/
theorem StandsWhole.front_eq_nil (h : StandsWhole needle hay front rest)
    (hmark : BeginsWithMark needle) : front = [] := by
  by_contra hne
  exact h.beginsWhole hne hmark

/-! ## What is found -/

/-- A match stands whole if the needle does not begin with a mark, or the
text starts with it. -/
theorem standsWhole_iff_of_contains (haccents : flags.ignoreAccents = false)
    (h : contains flags a b = true) :
    (∃ front rest, StandsWhole (fold flags b) (fold flags a) front rest) ↔
      ¬ BeginsWithMark (fold flags b) ∨ startsWith flags a b = true := by
  rw [startsWith_iff_standsWhole haccents]
  constructor
  · intro hwhole
    obtain ⟨front, rest, hwhole⟩ := hwhole
    refine Decidable.or_iff_not_imp_left.mpr fun hmark => ?_
    rw [hwhole.front_eq_nil (not_not.mp hmark)] at hwhole
    exact ⟨rest, hwhole⟩
  · intro hneedle
    rcases hneedle with hmark | hstart
    · obtain ⟨front, rest, hsplit, hends⟩ := (occurs_iff haccents).mp (occurs_of_search h)
      exact ⟨front, rest, hsplit, fun _ => hmark, hends⟩
    · exact ⟨[], hstart⟩

/-- At the end of a text the needle stands whole if it does not begin with
a mark, or is the whole text. -/
theorem standsWhole_iff_of_endsWith (h : endsWith flags a b = true) :
    (∃ front, StandsWhole (fold flags b) (fold flags a) front []) ↔
      ¬ BeginsWithMark (fold flags b) ∨ fold flags a = fold flags b := by
  constructor
  · intro hwhole
    obtain ⟨front, hwhole⟩ := hwhole
    refine Decidable.or_iff_not_imp_left.mpr fun hmark => ?_
    have hsplit := hwhole.split
    rw [hwhole.front_eq_nil (not_not.mp hmark)] at hsplit
    simpa using hsplit
  · intro hneedle
    rcases hneedle with hmark | hsame
    · obtain ⟨front, hfront⟩ := endsWith_iff_append.mp h
      exact ⟨front, by simpa using hfront, fun _ => hmark, not_beginsWithMark_nil⟩
    · exact ⟨[], by simpa using hsame, fun hne => absurd rfl hne, not_beginsWithMark_nil⟩

/-! ## A text in which the needle is cut -/

/-- Nothing is moved in front of a small e, nor is it folded to another letter. -/
theorem fold_e_append (haccents : flags.ignoreAccents = false) (b : String) :
    fold flags ("e" ++ b) = 'e' :: fold flags b := by
  have hdecompose : decompose ("e" ++ b).toList = 'e' :: decompose b.toList := by
    have hplace (ds : List Char) : Decomposition.place 'e' ds = 'e' :: ds :=
      place_of_follows fun d _ => .inr (by simp [show combiningClass 'e' = 0 from by decide])
    have hself : Decomposition.ofChar 'e' = ['e'] := by decide
    simp [decompose, Decomposition.reorder, hself, hplace]
  have hfold : foldChars flags ['e'] = ['e'] := by
    have hlower : lowercase 'e' = ['e'] := by decide
    simp [foldChars, haccents, lowercaseAll, hlower]
  rw [fold_eq_foldChars, hdecompose, ← List.singleton_append, foldChars_append, hfold]
  rfl

/-- A needle that begins with a mark is found behind a letter, and at the
end of a text, where it does not stand whole. -/
theorem exists_found_cut (haccents : flags.ignoreAccents = false)
    (hmark : BeginsWithMark (fold flags b)) :
    ∃ a, contains flags a b = true ∧ endsWith flags a b = true ∧
      ∀ front rest, ¬ StandsWhole (fold flags b) (fold flags a) front rest := by
  have hnot (rest : List Char) : 'e' :: fold flags b ≠ fold flags b ++ rest := by
    intro h
    have hletter : BeginsWithMark ('e' :: fold flags b) := h ▸ hmark.append rest
    rw [beginsWithMark_cons, not_isMark_of_mem_stretch List.mem_cons_self (by decide)] at hletter
    cases hletter
  refine ⟨"e" ++ b, ?_, ?_, fun front rest hwhole => ?_⟩
  · have hprefix : ¬ (fold flags b).isPrefixOf ('e' :: fold flags b) = true := by
      rw [List.isPrefixOf_iff_prefix]
      intro h
      obtain ⟨rest, hrest⟩ := h
      exact hnot rest hrest.symm
    have hself : contains flags b b = true :=
      contains_of_startsWith ((startsWith_iff_standsWhole haccents).mpr
        ⟨[], by simp, fun hne => absurd rfl hne, not_beginsWithMark_nil⟩)
    rw [contains, fold_e_append haccents, search, if_neg hprefix]
    exact hself
  · exact endsWith_iff_append.mpr ⟨['e'], by rw [fold_e_append haccents]; rfl⟩
  · have hsplit := hwhole.split
    rw [hwhole.front_eq_nil hmark, fold_e_append haccents] at hsplit
    exact hnot rest hsplit

/-! ## Boundaries -/

/-- With accents counting, what is found leaves no mark behind that
belongs to it, and a text starts with a needle exactly if it has it whole
at the start.  Elsewhere a match stands whole exactly if the folded needle
does not begin with a mark; if it does, some text contains it, and ends
with it, and has it nowhere whole. -/
theorem found_standsWhole_iff (haccents : flags.ignoreAccents = false) (b : String) :
    (∀ a, contains flags a b = true →
      ∃ front rest, fold flags a = front ++ fold flags b ++ rest ∧ ¬ BeginsWithMark rest) ∧
    (∀ a, startsWith flags a b = true ↔
      ∃ rest, StandsWhole (fold flags b) (fold flags a) [] rest) ∧
    (∀ a, endsWith flags a b = true ↔ ∃ front, fold flags a = front ++ fold flags b) ∧
    (∀ a, contains flags a b = true →
      ((∃ front rest, StandsWhole (fold flags b) (fold flags a) front rest) ↔
        ¬ BeginsWithMark (fold flags b) ∨ startsWith flags a b = true)) ∧
    (∀ a, endsWith flags a b = true →
      ((∃ front, StandsWhole (fold flags b) (fold flags a) front []) ↔
        ¬ BeginsWithMark (fold flags b) ∨ fold flags a = fold flags b)) ∧
    (BeginsWithMark (fold flags b) →
      ∃ a, contains flags a b = true ∧ endsWith flags a b = true ∧
        ∀ front rest, ¬ StandsWhole (fold flags b) (fold flags a) front rest) := by
  refine ⟨fun a h => ?_, fun a => startsWith_iff_standsWhole haccents,
    fun a => endsWith_iff_append, fun a => standsWhole_iff_of_contains haccents,
    fun a => standsWhole_iff_of_endsWith, exists_found_cut haccents⟩
  exact (occurs_iff haccents).mp (occurs_of_search h)

/-- The acute accent of a letter is found without the letter. -/
theorem not_standsWhole_of_mark : ¬ ∀ (flags : CompareFlags) (a b : String),
    flags.ignoreAccents = false → b ≠ "" →
      (contains flags a b = true →
        ∃ front rest, StandsWhole (fold flags b) (fold flags a) front rest) ∧
      (startsWith flags a b = true →
        ∃ rest, StandsWhole (fold flags b) (fold flags a) [] rest) ∧
      (endsWith flags a b = true →
        ∃ front, StandsWhole (fold flags b) (fold flags a) front []) := by
  intro h
  have hfound : contains {} "\u00E9" "\u0301" = true := by decide +kernel
  have hmark : BeginsWithMark (fold {} "\u0301") := by decide +kernel
  have hstart : startsWith {} "\u00E9" "\u0301" = false := by decide +kernel
  have hwhole := (h {} "\u00E9" "\u0301" rfl (by decide)).1 hfound
  rcases (standsWhole_iff_of_contains rfl hfound).mp hwhole with hneedle | hneedle
  · exact hneedle hmark
  · rw [hstart] at hneedle
    cases hneedle

/-- An accented letter is found whole inside a word, and an accent is
found behind a letter that it is cut off from. -/
theorem found_standsWhole_iff_word :
    (∃ front rest, StandsWhole (fold {} "f\u00E9") (fold {} "caf\u00E9s") front rest) ∧
    ∃ a, contains {} a "\u0301s" = true ∧
      ∀ front rest, ¬ StandsWhole (fold {} "\u0301s") (fold {} a) front rest := by
  have haccents : ({} : CompareFlags).ignoreAccents = false := rfl
  obtain ⟨-, -, -, hcontains, -, -⟩ := found_standsWhole_iff haccents "f\u00E9"
  obtain ⟨-, -, -, -, -, hcut⟩ := found_standsWhole_iff haccents "\u0301s"
  constructor
  · exact (hcontains "caf\u00E9s" (by decide +kernel)).mpr (.inl (by decide +kernel))
  · obtain ⟨a, hfound, -, hnot⟩ := hcut (by decide +kernel)
    exact ⟨a, hfound, hnot⟩

end RecordSieve.Collation
