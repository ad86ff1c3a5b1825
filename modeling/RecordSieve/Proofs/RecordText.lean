/-
RecordSieve.Proofs.RecordText — the two kinds of text that hold records.

Records may stand on lines of their own, with blank lines anywhere between
them (`OnLines`), or among the items of one array (`InArray`).  If compact
text is read back as the record that was written, then either text is read
as its records (`read_onLines`, `read_inArray`).  The reader tells the two
apart by the first character that is no blank: a line of a record starts
with a brace, and so a text of lines never looks like an array.
-/
import RecordSieve.Proofs.Json.CompactText
import RecordSieve.Proofs.Json.Nesting
import RecordSieve.Proofs.Text.Blank

namespace RecordSieve

/-! ## Lines -/

namespace Text

variable {line : List Char}

/-- A line without the carriage return at its end. -/
def withoutReturn (line : List Char) : List Char :=
  if line.getLast? = some '\r' then line.dropLast else line

theorem withoutReturn_cons {c : Char} (h : line ≠ []) :
    withoutReturn (c :: line) = c :: withoutReturn line := by
  rw [withoutReturn, withoutReturn, List.getLast?_cons_of_ne_nil h, List.dropLast_cons_of_ne_nil h]
  split <;> rfl

theorem withoutReturn_subset (line : List Char) : withoutReturn line ⊆ line := by
  rw [withoutReturn]
  split
  · exact List.dropLast_subset line
  · exact List.Subset.refl line

/-- A line ends at its line feed, and a carriage return before that belongs
to the end. -/
theorem lines_line (hfeed : '\n' ∉ line) (cs : List Char) :
    lines (line ++ '\n' :: cs) = withoutReturn line :: lines cs := by
  induction line with
  | nil => exact lines_newline cs
  | cons c line ih =>
    simp only [List.mem_cons, not_or] at hfeed
    have hc : c = '\n' → False := fun h => hfeed.1 h.symm
    rcases line with _ | ⟨d, line⟩
    · by_cases hreturn : c = '\r'
      · subst hreturn
        exact lines_return_newline cs
      · have hsame : withoutReturn [c] = [c] := by simp [withoutReturn, hreturn]
        rw [hsame, List.singleton_append, lines, lines_newline]
        · exact hc
        · exact fun _ h => absurd h hreturn
    · rw [withoutReturn_cons (List.cons_ne_nil d line), List.cons_append, lines, ih hfeed.2]
      · exact hc
      · rintro ds - h
        exact hfeed.2 (List.mem_cons.mpr (.inl (List.cons.inj h).1.symm))

/-- The last line may end with the text. -/
theorem lines_last (hfeed : '\n' ∉ line) (hne : line ≠ []) : lines line = [line] := by
  induction line with
  | nil => exact absurd rfl hne
  | cons c line ih =>
    simp only [List.mem_cons, not_or] at hfeed
    have hc : c = '\n' → False := fun h => hfeed.1 h.symm
    rcases line with _ | ⟨d, line⟩
    · rw [lines, lines_nil]
      · exact hc
      · rintro ds - h
        cases h
    · rw [lines, ih hfeed.2 (List.cons_ne_nil d line)]
      · exact hc
      · rintro ds - h
        exact hfeed.2 (List.mem_cons.mpr (.inl (List.cons.inj h).1.symm))

end Text

open Text

/-! ## Texts of records -/

namespace RecordText

/-- How a line may end. -/
def lineEndings : List (List Char) := [['\n'], ['\r', '\n']]

/-- The text holds the records on lines of their own, in compact form, with
blank lines anywhere; the last line need not be ended. -/
inductive OnLines : List Json → List Char → Prop
  | lastRecord (record : Json) : OnLines [record] record.compact
  | lastBlank {blanks : List Char} (hblank : isAllBlank blanks = true) (hfeed : '\n' ∉ blanks) :
      OnLines [] blanks
  | record (record : Json) {records : List Json} {ending text : List Char}
      (hending : ending ∈ lineEndings) (hrest : OnLines records text) :
      OnLines (record :: records) (record.compact ++ (ending ++ text))
  | blank {blanks : List Char} {records : List Json} {ending text : List Char}
      (hblank : isAllBlank blanks = true) (hfeed : '\n' ∉ blanks) (hending : ending ∈ lineEndings)
      (hrest : OnLines records text) : OnLines records (blanks ++ (ending ++ text))

/-- The texts of items of an array: the records in compact form, with white
space around, and anywhere texts of values that are no records. -/
inductive ItemTexts : List Json → List (List Char) → Prop
  | nil : ItemTexts [] []
  | record (record : Json) {records : List Json} {before after : List Char}
      {texts : List (List Char)} (hbefore : before.all Json.Reader.isSpace = true)
      (hafter : after.all Json.Reader.isSpace = true) (hrest : ItemTexts records texts) :
      ItemTexts (record :: records) ((before ++ record.compact ++ after) :: texts)
  | other {value : Json} {records : List Json} {text : List Char} {texts : List (List Char)}
      (hread : Json.readToDepth? (Json.maxDepth - 1) text = some value)
      (hvalue : value.isObject = false) (hrest : ItemTexts records texts) :
      ItemTexts records (text :: texts)

/-- The text is one array that has the records among its items. -/
def InArray (records : List Json) (text : List Char) : Prop :=
  ∃ blanks gap texts ending, isAllBlank blanks = true ∧ gap.all Json.Reader.isSpace = true ∧
    ItemTexts records texts ∧ ending.all Json.Reader.isSpace = true ∧
    text = blanks ++ '[' :: (gap ++ ([','].intercalate texts ++ ']' :: ending))

section

variable {record : Json} {records : List Json} {text : List Char}

theorem exists_cons_compact_of_isObject (h : record.isObject = true) :
    ∃ cs, record.compact = '{' :: cs := by
  cases record with
  | object members =>
    cases members with
    | nil => exact ⟨['}'], rfl⟩
    | cons member members => exact ⟨_, by rw [Json.compact]⟩
  | _ => cases h

theorem ofText?_text (value : Json) :
    Json.ofText? value.text = Json.readToDepth? Json.maxDepth value.compact := by
  rw [Json.ofText?, Json.text, String.toList_ofList]

theorem isAllBlank_ending {ending : List Char} (h : ending ∈ lineEndings) :
    isAllBlank ending = true := by
  simp only [lineEndings, List.mem_cons, List.not_mem_nil, or_false] at h
  obtain rfl | rfl := h <;> decide

/-- An ended line is split off; a carriage return may have been put at its end. -/
theorem lines_ended {line ending : List Char} (hfeed : '\n' ∉ line)
    (hending : ending ∈ lineEndings) (cs : List Char) :
    ∃ carriage ∈ [[], ['\r']],
      lines (line ++ (ending ++ cs)) = withoutReturn (line ++ carriage) :: lines cs := by
  simp only [lineEndings, List.mem_cons, List.not_mem_nil, or_false] at hending
  obtain rfl | rfl := hending
  · refine ⟨[], by simp, ?_⟩
    rw [List.append_nil]
    exact lines_line hfeed cs
  · have hfeed' : '\n' ∉ line ++ ['\r'] := by simp [hfeed]
    have hline := lines_line hfeed' cs
    rw [List.append_assoc] at hline
    exact ⟨['\r'], by simp, hline⟩

theorem lines_blank {blanks ending : List Char} (hblank : isAllBlank blanks = true)
    (hfeed : '\n' ∉ blanks) (hending : ending ∈ lineEndings) (cs : List Char) :
    ∃ line, isAllBlank line = true ∧ lines (blanks ++ (ending ++ cs)) = line :: lines cs := by
  obtain ⟨carriage, hcarriage, hlines⟩ := lines_ended hfeed hending cs
  refine ⟨_, List.all_eq_true.mpr fun c hc => ?_, hlines⟩
  rcases List.mem_append.mp (withoutReturn_subset _ hc) with hc | hc
  · exact List.all_eq_true.mp hblank c hc
  · simp only [List.mem_cons, List.not_mem_nil, or_false] at hcarriage
    obtain rfl | rfl := hcarriage
    · cases hc
    · rw [List.mem_singleton.mp hc]
      decide

theorem lines_record (record : Json) {ending : List Char} (hending : ending ∈ lineEndings)
    (cs : List Char) : lines (record.compact ++ (ending ++ cs)) = record.compact :: lines cs := by
  have hfree := Json.controlFree_compact record
  have hreturn : '\r' ∉ record.compact := hfree.not_mem (by decide)
  obtain ⟨carriage, hcarriage, hlines⟩ := lines_ended (hfree.not_mem (by decide)) hending cs
  have hsame : withoutReturn (record.compact ++ carriage) = record.compact := by
    simp only [List.mem_cons, List.not_mem_nil, or_false] at hcarriage
    obtain rfl | rfl := hcarriage
    · rw [List.append_nil, withoutReturn, if_neg]
      exact fun h => hreturn (List.mem_of_getLast? h)
    · simp [withoutReturn]
  rw [hlines, hsame]

theorem trimLeft_record (h : record.isObject = true) (cs : List Char) :
    ∃ ds, trimLeft (record.compact ++ cs) = '{' :: ds := by
  obtain ⟨ds, hds⟩ := exists_cons_compact_of_isObject h
  rw [hds, List.cons_append]
  exact ⟨_, List.dropWhile_cons_of_neg (by decide)⟩

/-- A text of lines does not start like an array. -/
theorem OnLines.head?_trimLeft (h : OnLines records text)
    (hobject : ∀ r ∈ records, r.isObject = true) : (trimLeft text).head? ≠ some '[' := by
  induction h with
  | lastRecord record =>
    obtain ⟨ds, hds⟩ := trimLeft_record (hobject record (by simp)) []
    rw [List.append_nil] at hds
    simp [hds]
  | @lastBlank blanks hblank hfeed =>
    have hnone := trimLeft_append_of_isAllBlank hblank []
    rw [List.append_nil] at hnone
    simp [hnone]
  | @record record records ending text hending hrest ih =>
    obtain ⟨ds, hds⟩ := trimLeft_record (hobject record (by simp)) (ending ++ text)
    simp [hds]
  | blank hblank hfeed hending hrest ih =>
    rw [trimLeft_append_of_isAllBlank hblank,
      trimLeft_append_of_isAllBlank (isAllBlank_ending hending)]
    exact ih hobject

theorem valuesFrom_record (hobject : record.isObject = true)
    (hreread : Json.ofText? record.text = some record) {number : Nat} {lines : List (List Char)}
    (hlines : valuesFrom (number + 1) lines = .ok records) :
    valuesFrom number (record.compact :: lines) = .ok (record :: records) := by
  have hblank : isAllBlank record.compact = false := by
    obtain ⟨ds, hds⟩ := exists_cons_compact_of_isObject hobject
    rw [hds]
    rfl
  rw [ofText?_text] at hreread
  rw [valuesFrom, hblank, hreread, hlines]
  rfl

theorem OnLines.valuesFrom_lines (h : OnLines records text)
    (hobject : ∀ r ∈ records, r.isObject = true)
    (hreread : ∀ r ∈ records, Json.ofText? r.text = some r) (number : Nat) :
    valuesFrom number (lines text) = .ok records := by
  induction h generalizing number with
  | lastRecord record =>
    have hfeed : '\n' ∉ record.compact := (Json.controlFree_compact record).not_mem (by decide)
    obtain ⟨cs, hcs⟩ := exists_cons_compact_of_isObject (hobject record (by simp))
    rw [lines_last hfeed (by simp [hcs])]
    exact valuesFrom_record (hobject record (by simp)) (hreread record (by simp)) rfl
  | @lastBlank blanks hblank hfeed =>
    rcases eq_or_ne blanks [] with rfl | hne
    · rfl
    · rw [lines_last hfeed hne, valuesFrom_blank hblank]
      rfl
  | @record record records ending text hending hrest ih =>
    obtain ⟨hrecord, hrecords⟩ := List.forall_mem_cons.mp hobject
    obtain ⟨hfirst, hothers⟩ := List.forall_mem_cons.mp hreread
    rw [lines_record record hending]
    exact valuesFrom_record hrecord hfirst (ih hrecords hothers (number + 1))
  | blank hblank hfeed hending hrest ih =>
    obtain ⟨line, hline, hlines⟩ := lines_blank hblank hfeed hending _
    rw [hlines, valuesFrom_blank hline]
    exact ih hobject hreread (number + 1)

/-- Records on lines are read as themselves. -/
theorem read_onLines {text : String} (h : OnLines records text.toList)
    (hobject : ∀ r ∈ records, r.isObject = true)
    (hreread : ∀ r ∈ records, Json.ofText? r.text = some r) : read text = .ok records := by
  have hvalues : values text.toList = .ok records := by
    have hhead := h.head?_trimLeft hobject
    rw [values, if_neg]
    · exact h.valuesFrom_lines hobject hreread 1
    · simpa using hhead
  rw [read, hvalues]
  exact congrArg Except.ok (List.filter_eq_self.mpr hobject)

/-- The items of an array are the values of their texts, and the records
among them are those that were written. -/
theorem ItemTexts.exists_values {texts : List (List Char)} (h : ItemTexts records texts)
    (hobject : ∀ r ∈ records, r.isObject = true) (hdepth : ∀ r ∈ records, r.depth ≤ 126)
    (hreread : ∀ r ∈ records, Json.ofText? r.text = some r) :
    ∃ values, List.Forall₂
        (fun text value => Json.readToDepth? (Json.maxDepth - 1) text = some value) texts values ∧
      values.filter Json.isObject = records := by
  induction h with
  | nil => exact ⟨[], .nil, rfl⟩
  | record record hbefore hafter hrest ih =>
    obtain ⟨hrecord, hrecords⟩ := List.forall_mem_cons.mp hobject
    obtain ⟨hlevel, hlevels⟩ := List.forall_mem_cons.mp hdepth
    obtain ⟨hfirst, hothers⟩ := List.forall_mem_cons.mp hreread
    obtain ⟨values, hvalues, hfilter⟩ := ih hrecords hlevels hothers
    rw [ofText?_text] at hfirst
    refine ⟨record :: values, .cons ?_ hvalues, ?_⟩
    · exact Json.readToDepth?_pad hbefore hafter (Json.readToDepth?_compact hlevel hfirst)
    · rw [List.filter_cons_of_pos hrecord, hfilter]
  | @other value records text texts hread hvalue hrest ih =>
    obtain ⟨values, hvalues, hfilter⟩ := ih hobject hdepth hreread
    refine ⟨value :: values, .cons hread hvalues, ?_⟩
    rw [List.filter_cons_of_neg (by simp [hvalue]), hfilter]

/-- Records among the items of an array are read as themselves. -/
theorem read_inArray {text : String} (h : InArray records text.toList)
    (hobject : ∀ r ∈ records, r.isObject = true) (hdepth : ∀ r ∈ records, r.depth ≤ 126)
    (hreread : ∀ r ∈ records, Json.ofText? r.text = some r) : read text = .ok records := by
  obtain ⟨blanks, gap, texts, ending, hblanks, hgap, htexts, hending, htext⟩ := h
  obtain ⟨items, hitems, hfilter⟩ := htexts.exists_values hobject hdepth hreread
  have hbody : trimLeft text.toList =
      '[' :: (gap ++ ([','].intercalate texts ++ ']' :: ending)) := by
    rw [htext, trimLeft_append_of_isAllBlank hblanks]
    exact List.dropWhile_cons_of_neg (by decide)
  have hvalues : values text.toList = .ok items := by
    have hread : Json.readToDepth? Json.maxDepth (trimLeft text.toList) = some (.array items) := by
      rw [hbody]
      exact Json.readToDepth?_array hgap hending hitems
    rw [values, if_pos (by rw [hbody]; rfl), itemsOf, hread]
  rw [read, hvalues]
  exact congrArg Except.ok hfilter

/-- Records are written on lines. -/
theorem onLines_write (records : List Json) : OnLines records (write records).toList := by
  rw [write, String.toList_ofList]
  induction records with
  | nil => exact .lastBlank rfl (by simp)
  | cons record records ih =>
    rw [List.flatMap_cons, writeLine, List.append_assoc]
    exact .record record (by simp [lineEndings]) ih

end

end RecordText

end RecordSieve
