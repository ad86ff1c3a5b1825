/-
RecordSieve.Proofs.Locale — what of a tag counts for its locale.

Two tags are alike (`TagAlike`) if they differ at most in the case of
ASCII letters and in which of the two separators stands between their
parts.  Alike tags are cut at the same places, and their parts differ in
case only (`forall₂_parts`); so the language, in small letters, is the
same, and the region, in capitals, is the same part of the same size.
That is all that the conventions of a locale are decided by.  A tag that
is alike to the word for the invariant locale is that word as well.

The word itself never is a tag, since it is taken for the empty one.  That
is why a locale is found again from the text that shows it, which writes
the empty tag as the word, and from the tag alone, which does not.
-/
import RecordSieve.Proofs.Json.Nesting
import RecordSieve.Proofs.Text.Letter
import RecordSieve.Options

namespace RecordSieve

open Text

/-! ## Pieces of texts that are related -/

namespace Text

/-- Texts with separators at the same places are cut there alike. -/
theorem forall₂_splitWhere {isSep : Char → Bool} {r r' : Char → Char → Prop}
    (hcut : ∀ c d, r c d →
      isSep c = true ∧ isSep d = true ∨ isSep c = false ∧ isSep d = false ∧ r' c d)
    {cs ds : List Char} (h : List.Forall₂ r cs ds) :
    List.Forall₂ (List.Forall₂ r') (splitWhere isSep cs) (splitWhere isSep ds) := by
  induction h with
  | nil => exact .cons .nil .nil
  | @cons c d cs ds hcd _ ih =>
    simp only [splitWhere]
    cases hcut c d hcd with
    | inl hsep => simpa [hsep] using ih
    | inr hsame =>
      generalize splitWhere isSep cs = pieces at ih ⊢
      generalize splitWhere isSep ds = pieces' at ih ⊢
      simp only [hsame, Bool.false_eq_true, if_false]
      cases ih with
      | nil => exact .cons (.cons hsame.2.2 .nil) .nil
      | cons hpiece hpieces => exact .cons (.cons hsame.2.2 hpiece) hpieces

/-- The first of the pieces that pass a test is at the same place, if the
test and what is made of a piece tell no related ones apart. -/
theorem map_find?_eq {β : Type} {r : List Char → List Char → Prop} {p : List Char → Bool}
    {f : List Char → β} (hp : ∀ a b, r a b → p a = p b) (hf : ∀ a b, r a b → f a = f b)
    {as bs : List (List Char)} (h : List.Forall₂ r as bs) :
    (as.find? p).map f = (bs.find? p).map f := by
  induction h with
  | nil => rfl
  | @cons a b as bs hab _ ih =>
    rw [List.find?_cons, List.find?_cons, hp a b hab]
    cases p b with
    | true => simp [hf a b hab]
    | false => simpa using ih

end Text

namespace Locale

/-! ## Tags that are alike -/

/-- The characters are equal, one ASCII letter in either case, or two
separators. -/
def TagChar (c d : Char) : Prop :=
  SameButCase c d ∨ isSeparator c = true ∧ isSeparator d = true

/-- The tags differ at most in the case of ASCII letters and in which
separators they have. -/
def TagAlike (t t' : String) : Prop := List.Forall₂ TagChar t.toList t'.toList

/-- The text is the word for the invariant locale, in any case. -/
def NamesInvariant (t : String) : Prop := List.Forall₂ SameButCase t.toList "invariant".toList

variable {l l' : Locale} {t t' : String} {c d : Char} {cs ds word : List Char}

theorem not_isSeparator_of_isLetter (h : IsLetter c) : isSeparator c = false := by
  have hseparators : ∀ c ∈ ['-', '_'], ¬ IsLetter c := by decide
  refine Bool.eq_false_iff.mpr fun hc => hseparators c ?_ h
  simpa [isSeparator] using hc

/-- A separator is no letter, so a change of case keeps it. -/
theorem isSeparator_eq (h : SameButCase c d) : isSeparator c = isSeparator d := by
  cases h with
  | inl heq => rw [heq]
  | inr hletter =>
    obtain ⟨i, hc, hd⟩ := hletter
    rw [not_isSeparator_of_isLetter ⟨i, hc⟩, not_isSeparator_of_isLetter ⟨i, hd⟩]

theorem TagChar.cases (h : TagChar c d) : isSeparator c = true ∧ isSeparator d = true ∨
    isSeparator c = false ∧ isSeparator d = false ∧ SameButCase c d := by
  cases h with
  | inl hsame =>
    have hsep := isSeparator_eq hsame
    cases hc : isSeparator c with
    | true => exact .inl ⟨rfl, hsep ▸ hc⟩
    | false => exact .inr ⟨rfl, hsep ▸ hc, hsame⟩
  | inr hsep => exact .inl hsep

theorem TagChar.symm (h : TagChar c d) : TagChar d c := h.imp SameButCase.symm And.symm

theorem TagAlike.symm (h : TagAlike t t') : TagAlike t' t :=
  (h.imp fun _ _ hcd => hcd.symm).flip

/-! ## Conventions -/

theorem forall₂_parts (h : TagAlike l.tag l'.tag) :
    List.Forall₂ (List.Forall₂ SameButCase) l.parts l'.parts :=
  forall₂_splitWhere (fun _ _ hcd => hcd.cases) h

theorem isInvariant_eq (h : TagAlike l.tag l'.tag) : l.isInvariant = l'.isInvariant := by
  have hlength : l.tag.toList.length = l'.tag.toList.length := h.length_eq
  have hempty (l : Locale) : l.isInvariant = true ↔ l.tag.toList.length = 0 := by
    simp [isInvariant]
  rw [Bool.eq_iff_iff, hempty, hempty, hlength]

theorem language_eq (h : TagAlike l.tag l'.tag) : l.language = l'.language := by
  have hparts := forall₂_parts h
  rw [language, language]
  generalize l.parts = parts at hparts ⊢
  generalize l'.parts = parts' at hparts ⊢
  cases hparts with
  | nil => rfl
  | cons hpart _ => simp [lowerAscii_eq_iff.mpr hpart]

theorem region?_eq (h : TagAlike l.tag l'.tag) : l.region? = l'.region? := by
  have htail : List.Forall₂ (List.Forall₂ SameButCase) l.parts.tail l'.parts.tail := by
    have hparts := forall₂_parts h
    generalize l.parts = parts at hparts ⊢
    generalize l'.parts = parts' at hparts ⊢
    cases hparts with
    | nil => exact .nil
    | cons _ hrest => exact hrest
  refine map_find?_eq (fun a b hab => ?_) (fun a b hab => ?_) htail
  · rw [byteLength_eq hab]
  · rw [upperAscii_eq hab]

theorem dateOrder_eq (h : TagAlike l.tag l'.tag) : l.dateOrder = l'.dateOrder := by
  simp only [dateOrder, isInvariant_eq h, language_eq h, region?_eq h]

theorem decimalSeparator_eq (h : TagAlike l.tag l'.tag) :
    l.decimalSeparator = l'.decimalSeparator := by
  rw [decimalSeparator, decimalSeparator, decimalComma, decimalComma, isInvariant_eq h,
    language_eq h]

/-! ## The word for the invariant locale -/

theorem sameName_iff : sameName t "invariant" = true ↔ NamesInvariant t := equalIgnoringCase_iff

/-- A word without separators is spelled alike by alike texts. -/
theorem forall₂_of_alike (hword : ∀ w ∈ word, isSeparator w = false)
    (h : List.Forall₂ TagChar cs ds) (hcs : List.Forall₂ SameButCase cs word) :
    List.Forall₂ SameButCase ds word := by
  induction h generalizing word with
  | nil => exact hcs
  | cons hcd _ ih =>
    cases hcs with
    | cons hcw hrest =>
      obtain ⟨hw, hwords⟩ := List.forall_mem_cons.mp hword
      refine .cons ?_ (ih hwords hrest)
      cases hcd.cases with
      | inl hsep =>
        rw [isSeparator_eq hcw, hw] at hsep
        cases hsep.1
      | inr hsame => exact hsame.2.2.symm.trans hcw

theorem NamesInvariant.of_alike (h : TagAlike t t') (ht : NamesInvariant t) : NamesInvariant t' :=
  forall₂_of_alike (by decide) h ht

theorem ofTag_of_namesInvariant (h : NamesInvariant t) : ofTag t = invariant := by
  have hname : ¬ sameName t "invariant" = false := by simp [sameName_iff.mpr h]
  rw [ofTag, dif_neg hname]

theorem tag_ofTag (h : ¬ NamesInvariant t) : (ofTag t).tag = t := by
  have hname : sameName t "invariant" = false :=
    Bool.eq_false_iff.mpr fun hname => h (sameName_iff.mp hname)
  rw [ofTag, dif_pos hname]

theorem not_namesInvariant_tag (l : Locale) : ¬ NamesInvariant l.tag := by
  intro h
  have hname := l.isTag
  rw [sameName_iff.mpr h] at hname
  cases hname

/-- Alike tags are tags of locales that have alike tags. -/
theorem tagAlike_ofTag (h : TagAlike t t') : TagAlike (ofTag t).tag (ofTag t').tag := by
  by_cases ht : NamesInvariant t
  · rw [ofTag_of_namesInvariant ht, ofTag_of_namesInvariant (ht.of_alike h)]
    exact .nil
  · rw [tag_ofTag ht, tag_ofTag fun ht' => ht (ht'.of_alike h.symm)]
    exact h

/-! ## Finding a locale again -/

theorem ofTag_tag (l : Locale) : ofTag l.tag = l := ext (tag_ofTag l.not_namesInvariant_tag)

theorem ofTag_display (l : Locale) : ofTag l.display = l := by
  rw [display]
  cases hl : l.isInvariant with
  | true =>
    have hword : NamesInvariant "invariant" := sameName_iff.mp (by decide +kernel)
    have htag : l.tag = "" := by simpa [isInvariant] using hl
    rw [if_pos rfl, ofTag_of_namesInvariant hword]
    exact ext htag.symm
  | false => exact l.ofTag_tag

end Locale

/-- Members stand in the order of their keys. -/
theorem Json.ofMembers_pair {key key' : String} {v v' : Json} (h : key' < key) :
    ofMembers [(key, v), (key', v')] = .object [(key', v'), (key, v)] :=
  congrArg Json.object (if_pos h)

namespace RuleOptions

theorem localeOf?_tag (l : Locale) : localeOf? (some (.string l.tag)) = some l :=
  congrArg some l.ofTag_tag

theorem compareOf?_toJson (flags : CompareFlags) : compareOf? (some flags.toJson) = some flags := by
  have hmembers : flags.toJson = .object
      [("ignore_accents", .bool flags.ignoreAccents), ("ignore_case", .bool flags.ignoreCase)] :=
    Json.ofMembers_pair (by decide +kernel)
  rw [hmembers]
  rfl

theorem ofJson?_toJson (options : RuleOptions) : ofJson? options.toJson = some options := by
  have hmembers : options.toJson = .object
      [("compare", options.compare.toJson), ("locale", .string options.locale.tag)] :=
    Json.ofMembers_pair (by decide +kernel)
  have hlocale : options.toJson.get? "locale" = some (.string options.locale.tag) := by
    rw [hmembers]
    rfl
  have hcompare : options.toJson.get? "compare" = some options.compare.toJson := by
    rw [hmembers]
    rfl
  rw [hmembers, ofJson?, ← hmembers, hlocale, hcompare, localeOf?_tag, compareOf?_toJson]
  rfl

end RuleOptions

namespace Locale

/-- Tags that differ only in the case of ASCII letters and in their
separators give locales with the same conventions, both invariant or
neither.  A text is the tag of its locale, unless it is the word for the
invariant locale in some case, and then the tag is empty; so no locale has
the word for its tag, in any case.  Every locale is found again from the
text that shows it, and read back from its tag as a value, as text, and
among options. -/
theorem tags_alike_and_reread :
    (∀ t t' : String, TagAlike t t' →
      (ofTag t).isInvariant = (ofTag t').isInvariant ∧
      (ofTag t).dateOrder = (ofTag t').dateOrder ∧
      (ofTag t).decimalSeparator = (ofTag t').decimalSeparator) ∧
    (∀ t : String, (NamesInvariant t → (ofTag t).tag = "") ∧
      (¬ NamesInvariant t → (ofTag t).tag = t)) ∧
    (∀ l : Locale, ¬ NamesInvariant l.tag ∧ ofTag l.display = l ∧
      RuleOptions.localeOf? (some (.string l.tag)) = some l ∧
      (Json.ofText? (Json.string l.tag).text).bind (fun v => RuleOptions.localeOf? (some v)) =
        some l) ∧
    ∀ options : RuleOptions, RuleOptions.ofJson? options.toJson = some options := by
  refine ⟨fun t t' h => ?_, fun t => ⟨fun ht => ?_, tag_ofTag⟩, fun l => ?_,
    RuleOptions.ofJson?_toJson⟩
  · have htags := tagAlike_ofTag h
    exact ⟨isInvariant_eq htags, dateOrder_eq htags, decimalSeparator_eq htags⟩
  · rw [ofTag_of_namesInvariant ht]
    rfl
  · have hread := RuleOptions.localeOf?_tag l
    refine ⟨l.not_namesInvariant_tag, l.ofTag_display, hread, ?_⟩
    rw [Json.ofText?_text_string]
    exact hread

/-- The region is the third part of these tags, which stand for one
locale in two spellings; and a word that goes on is a tag of its own. -/
theorem tags_alike_and_reread_philippines :
    (TagAlike "en-Latn-PH" "EN_latn_ph" ∧
      (ofTag "en-Latn-PH").dateOrder = .monthDayYear ∧
      (ofTag "EN_latn_ph").dateOrder = .monthDayYear) ∧
    (NamesInvariant "InVariant" ∧ (ofTag "InVariant").tag = "") ∧
    ¬ NamesInvariant "invariant-PH" ∧ (ofTag "invariant-PH").tag = "invariant-PH" := by
  obtain ⟨halike, htag, -⟩ := tags_alike_and_reread
  have htags : TagAlike "en-Latn-PH" "EN_latn_ph" := by
    unfold TagAlike TagChar
    decide +kernel
  have horder : (ofTag "en-Latn-PH").dateOrder = .monthDayYear := by decide +kernel
  have hword : NamesInvariant "InVariant" := sameName_iff.mp (by decide +kernel)
  have hlonger : ¬ NamesInvariant "invariant-PH" := by
    rw [← sameName_iff]
    decide +kernel
  obtain ⟨-, hsame, -⟩ := halike _ _ htags
  exact ⟨⟨htags, horder, hsame ▸ horder⟩, ⟨hword, (htag _).1 hword⟩, hlonger, (htag _).2 hlonger⟩

end Locale

end RecordSieve
