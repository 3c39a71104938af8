import Ensemble.Proofs.Environment
import Ensemble.Proofs.Rendering

/-!
# Ensemble.Proofs.BindingTexts

**Bindings, printed and read again.** What a command prints is read line by line, and a binding is
displayed as one line. The main result, `parseAll_printed`, says which bindings can be read from
some text (`Binding.Printable`), that these are read from their displayed lines, however the lines
are ended, and that a text put together from two is read as the two are.

A line is read with the blanks at its ends taken off (`ofLine?_append_blank`), so what ends it makes
no difference, be it taken off before or left to be trimmed. That gives the one law that the others
follow from: the first line of a text is read, and then the rest (`parseAll_line_append`).
-/

namespace Ensemble

namespace Text

theorem trimBlanks_append {blanks : List Char} (h : ∀ c ∈ blanks, isBlank c = true)
    (cs : List Char) : trimBlanks (cs ++ blanks) = trimBlanks cs := by
  obtain ⟨hbare, before, after, hcs, hbefore, hafter⟩ :=
    trimBlanks_eq_iff.mp (Eq.refl (trimBlanks cs))
  refine trimBlanks_eq_iff.mpr ⟨hbare, before, after ++ blanks, ?_, hbefore, ?_⟩
  · conv_lhs => rw [hcs]
    simp only [List.append_assoc]
  · exact List.forall_mem_append.mpr ⟨hafter, h⟩

/-- What is left after trimming is left as it is by trimming. -/
theorem Padded.trim_eq {bare padded : String} (h : Padded bare padded) : trim bare = bare :=
  trim_eq_iff.mpr ⟨h.1, "", "", by simp, isAllBlank_empty, isAllBlank_empty⟩

theorem Padded.subset {bare padded : String} (h : Padded bare padded) :
    bare.toList ⊆ padded.toList := by
  obtain ⟨-, before, after, rfl, -, -⟩ := h
  intro c hc
  simp [hc]

/-- What ends a line is blank. -/
theorem exists_withoutTerminator_append (line : List Char) :
    ∃ ending, line = withoutTerminator line ++ ending ∧ ∀ c ∈ ending, isBlank c = true := by
  unfold withoutTerminator
  split <;> rename_i h
  · exact ⟨['\r', '\n'], by rw [← List.reverse_inj, h]; simp, by simp [isBlank]⟩
  · exact ⟨['\n'], by rw [← List.reverse_inj, h]; simp, by simp [isBlank]⟩
  · exact ⟨[], by simp, by simp⟩

/-- The text with a carriage return put before each line feed. -/
def withReturns (s : String) : String :=
  .ofList (s.toList.flatMap fun c => if c = '\n' then ['\r', '\n'] else [c])

theorem withReturns_of_not_mem {line : String} (h : '\n' ∉ line.toList) :
    withReturns line = line := by
  have hkeep : line.toList.flatMap (fun c => if c = '\n' then ['\r', '\n'] else [c]) =
      line.toList.flatMap ([·]) :=
    List.flatMap_congr fun c hc => if_neg fun heq : c = '\n' => h (heq ▸ hc)
  rw [withReturns, hkeep, List.flatMap_singleton', String.ofList_toList]

theorem withReturns_line_append {line : String} (h : '\n' ∉ line.toList) (rest : String) :
    withReturns (line ++ "\n" ++ rest) = line ++ "\r\n" ++ withReturns rest := by
  have hline : line.toList.flatMap (fun c => if c = '\n' then ['\r', '\n'] else [c]) =
      line.toList := by
    simpa [withReturns] using congrArg String.toList (withReturns_of_not_mem h)
  apply String.toList_injective
  simp [withReturns, hline]

end Text

namespace Binding

/-! ### Lines and what ends them -/

/-- A binding that a line can give: key and value fit on one line and have no blanks around them,
and the key is not empty and ends before the first equals sign. -/
structure Printable (b : Binding) : Prop where
  key_ne_empty : b.key ≠ ""
  trim_key : Text.trim b.key = b.key
  sign_not_mem_key : '=' ∉ b.key.toList
  feed_not_mem_key : '\n' ∉ b.key.toList
  trim_value : Text.trim b.value = b.value
  feed_not_mem_value : '\n' ∉ b.value.toList

/-- Blanks at the end of a line say nothing. -/
theorem ofLine?_append_blank {blank : String} (h : Text.isAllBlank blank = true) (line : String) :
    ofLine? (line ++ blank) = ofLine? line := by
  have hblank : ∀ c ∈ blank.toList, Text.isBlank c = true := List.all_eq_true.mp h
  have hsign : '=' ∉ blank.toList := fun hmem => absurd (hblank _ hmem) (by decide)
  by_cases hline : '=' ∈ line.toList
  · obtain ⟨key, value, hcut, hkey⟩ := List.eq_append_cons_of_mem hline
    have hsplit : Text.splitFirst '=' line.toList = some (key, value) :=
      Text.splitFirst_eq_some_iff.mpr ⟨hcut, hkey⟩
    have hsplit' : Text.splitFirst '=' (line ++ blank).toList =
        some (key, value ++ blank.toList) :=
      Text.splitFirst_eq_some_iff.mpr ⟨by simp [hcut], hkey⟩
    simp only [ofLine?, hsplit, hsplit', Option.bind_eq_bind, Option.bind_some,
      Text.trimBlanks_append hblank]
  · have hsplit : Text.splitFirst '=' line.toList = none := Text.splitFirst_eq_none_iff.mpr hline
    have hsplit' : Text.splitFirst '=' (line ++ blank).toList = none :=
      Text.splitFirst_eq_none_iff.mpr (by simp [hline, hsign])
    rw [ofLine?, ofLine?, hsplit, hsplit']

/-- So it makes no difference whether a line's end is taken off. -/
theorem ofLine?_withoutTerminator (line : List Char) :
    ofLine? (.ofList (Text.withoutTerminator line)) = ofLine? (.ofList line) := by
  obtain ⟨ending, hline, hblank⟩ := Text.exists_withoutTerminator_append line
  have happend : String.ofList line =
      .ofList (Text.withoutTerminator line) ++ .ofList ending := by
    rw [← String.ofList_append, ← hline]
  rw [happend, ofLine?_append_blank (by simpa [Text.isAllBlank] using hblank)]

/-! ### The first line of a text -/

theorem parseAll_of_not_mem {line : String} (h : '\n' ∉ line.toList) :
    parseAll line = (ofLine? line).toList := by
  rw [parseAll, Text.lines_of_not_mem h]
  split
  · rename_i hempty
    rw [hempty]
    rfl
  · cases hline : ofLine? line <;> simp [hline]

/-- **The first line is read, and then the rest**, however the line is ended. -/
theorem parseAll_line_append {line ending : String} (h : '\n' ∉ line.toList)
    (hending : Text.IsEnding ending) (rest : String) :
    parseAll (line ++ ending ++ rest) = (ofLine? line).toList ++ parseAll rest := by
  have hblank : Text.isAllBlank ending = true := by
    rcases hending with rfl | rfl <;> decide
  have hline : ofLine? (.ofList (Text.withoutTerminator (line.toList ++ ending.toList))) =
      ofLine? line := by
    rw [ofLine?_withoutTerminator, ← String.toList_append, String.ofList_toList,
      ofLine?_append_blank hblank]
  rw [parseAll, Text.lines_append (Text.ended_append_ending hending),
    Text.lines_ended h hending, List.filterMap_append, List.filterMap_cons, hline, parseAll]
  cases ofLine? line <;> rfl

/-- Two texts with a line feed between them are read one after the other. -/
theorem parseAll_append (a b : String) :
    parseAll (a ++ "\n" ++ b) = parseAll a ++ parseAll b := by
  induction a using Text.induction_on_lines with
  | last line hline => rw [parseAll_line_append hline (.inl rfl), parseAll_of_not_mem hline]
  | step line rest hline ih =>
      have hassoc : line ++ "\n" ++ rest ++ "\n" ++ b = line ++ "\n" ++ (rest ++ "\n" ++ b) := by
        simp only [String.append_assoc]
      rw [hassoc, parseAll_line_append hline (.inl rfl), parseAll_line_append hline (.inl rfl), ih,
        List.append_assoc]

theorem parseAll_withReturns (output : String) :
    parseAll (Text.withReturns output) = parseAll output := by
  induction output using Text.induction_on_lines with
  | last line hline => rw [Text.withReturns_of_not_mem hline]
  | step line rest hline ih =>
      rw [Text.withReturns_line_append hline, parseAll_line_append hline (.inr rfl),
        parseAll_line_append hline (.inl rfl), ih]

/-! ### Displayed bindings -/

theorem Printable.feed_not_mem_display {b : Binding} (h : b.Printable) :
    '\n' ∉ b.display.toList := by
  simp [display, h.feed_not_mem_key, h.feed_not_mem_value]

/-- A binding is read from its displayed line. -/
theorem Printable.ofLine?_display {b : Binding} (h : b.Printable) :
    ofLine? b.display = some b :=
  ofLine?_eq_some_iff.mpr ⟨h.key_ne_empty, b.key, b.value, rfl, h.sign_not_mem_key,
    Text.trim_eq_iff.mp h.trim_key, Text.trim_eq_iff.mp h.trim_value⟩

theorem parseAll_display {bindings : List Binding} (h : ∀ b ∈ bindings, b.Printable)
    {ending : String} (hending : Text.IsEnding ending) :
    parseAll (ending.intercalate (bindings.map display)) = bindings := by
  induction bindings with
  | nil => rfl
  | cons b bindings ih =>
      obtain ⟨hb, hbindings⟩ := List.forall_mem_cons.mp h
      have hfeed := hb.feed_not_mem_display
      cases bindings with
      | nil =>
          rw [List.map_singleton, String.intercalate_singleton, parseAll_of_not_mem hfeed,
            hb.ofLine?_display]
          rfl
      | cons next bindings =>
          rw [List.map_cons, List.map_cons, String.intercalate_cons_cons, ← List.map_cons,
            parseAll_line_append hfeed hending, hb.ofLine?_display, ih hbindings]
          rfl

/-- What is read from a text can be printed. -/
theorem printable_of_mem_parseAll {output : String} {b : Binding} (h : b ∈ parseAll output) :
    b.Printable := by
  obtain ⟨line, hline, hb⟩ := List.mem_filterMap.mp h
  have hfeed : '\n' ∉ line.toList := Text.not_mem_of_mem_lines hline
  obtain ⟨hkey, before, after, rfl, hsign, hbefore, hafter⟩ := ofLine?_eq_some_iff.mp hb
  simp only [String.toList_append, List.mem_append, not_or] at hfeed
  exact {
    key_ne_empty := hkey
    trim_key := hbefore.trim_eq
    sign_not_mem_key := fun hmem => hsign (hbefore.subset hmem)
    feed_not_mem_key := fun hmem => hfeed.1.1 (hbefore.subset hmem)
    trim_value := hafter.trim_eq
    feed_not_mem_value := fun hmem => hfeed.2 (hafter.subset hmem) }

/-- **Bindings are read as they were displayed.**

* A list of bindings can be read from some text exactly when each of them is printable.
* Then it is read from the displayed lines, with either line end between them.
* So what has been read from a text is read again from its displayed lines.
* Two texts with a line feed between them give the bindings of both, in order.
* Carriage returns before the line feeds of a text change nothing. -/
theorem parseAll_printed :
    (∀ bindings, (∃ output, parseAll output = bindings) ↔ ∀ b ∈ bindings, b.Printable) ∧
    (∀ bindings ending, (∀ b ∈ bindings, b.Printable) → Text.IsEnding ending →
      parseAll (ending.intercalate (bindings.map display)) = bindings) ∧
    (∀ output ending, Text.IsEnding ending →
      parseAll (ending.intercalate ((parseAll output).map display)) = parseAll output) ∧
    (∀ a b, parseAll (a ++ "\n" ++ b) = parseAll a ++ parseAll b) ∧
    ∀ output, parseAll (Text.withReturns output) = parseAll output := by
  refine ⟨fun bindings => ⟨?_, fun h => ?_⟩, fun bindings ending h hending => ?_,
    fun output ending hending => ?_, parseAll_append, parseAll_withReturns⟩
  · rintro ⟨output, rfl⟩ b hb
    exact printable_of_mem_parseAll hb
  · exact ⟨_, parseAll_display h (.inl rfl)⟩
  · exact parseAll_display h hending
  · exact parseAll_display (fun b hb => printable_of_mem_parseAll hb) hending

/-- A key with a carriage return and blanks inside, a value with equals signs, and an empty value
under the same key; they are read from an output with talk in it and no line feed at its end. -/
theorem parseAll_printed_odd_texts :
    let bindings : List Binding := [⟨"a\r b", "=1= 2"⟩, ⟨"a\r b", ""⟩]
    let output := "talk\r\n a\r b ==1= 2\u00A0\r\r\n = 3\n\na\r b=\r"
    (∀ b ∈ bindings, b.Printable) ∧ parseAll output = bindings ∧
      parseAll (Text.withReturns output) = bindings ∧
      parseAll "a\r b==1= 2\r\na\r b=" = bindings := by
  intro bindings output
  obtain ⟨himage, hdisplayed, -, -, hreturns⟩ := parseAll_printed
  have hread : parseAll output = bindings := by decide
  have hprintable : ∀ b ∈ bindings, b.Printable := (himage bindings).mp ⟨output, hread⟩
  exact ⟨hprintable, hread, (hreturns output).trans hread,
    hdisplayed bindings "\r\n" hprintable (.inr rfl)⟩

end Binding

end Ensemble
