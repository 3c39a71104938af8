import Ensemble.Proofs.BrokenPairs

/-!
# Ensemble.Proofs.FaultOrder

**Which fault comes first.** A root file can be refused for a broken pair and for a line that is no
text. Lines are decoded when the reader takes them, so the fault that stands further up is told. The
main result, `readDirectives_first_fault`, says so by what stands before the first line that is no
text: if a pair is broken there by its second line, that is the fault whatever comes behind; in
every other case the line itself is the fault, also where it was to be the second line of a pair.

The lines before some line of a source are a source of their own, and the last of them is ended
(`Text.cutAfter_front`), so the laws of a root file that goes on apply to it. What they leave open is
the pair that is cut off where those lines end. There the reader is stuck on the opener alone, and
with one line more it is stuck on that line (`readLines_append_garbled`).
-/

namespace Ensemble

/-! ### Lines before a line -/

/-- Bytes that a text is written as. -/
def Text.Utf8.WellFormed (bytes : Text.Bytes) : Prop :=
  ∃ s, bytes = encode s

theorem SourceLine.ofBytes?_eq_garbled {bytes : Text.Bytes} (h : ¬Text.Utf8.WellFormed bytes)
    (number : Nat) : ofBytes? number bytes = some .garbled := by
  unfold ofBytes?
  split
  · rfl
  · rename_i s hdecode
    exact absurd ⟨s, Text.Utf8.decode?_eq_some_iff.mp hdecode⟩ h

/-- A source whose lines are texts is a text. -/
theorem exists_text_of_lines {source : Text.Bytes}
    (h : ∀ line ∈ Text.cutAfter Text.lineFeed source, Text.Utf8.WellFormed line) :
    ∃ text, source = Text.Utf8.encode text := by
  rw [← Text.flatten_cutAfter Text.lineFeed source]
  exact Text.Utf8.exists_encode_flatten h

/-- What the reader finds in a source up to its first line that is no text. -/
theorem sourceLines_of_garbled {source garbled : Text.Bytes} {front behind : List Text.Bytes}
    (hlines : Text.cutAfter Text.lineFeed source = front ++ garbled :: behind)
    (hgarbled : ¬Text.Utf8.WellFormed garbled) :
    ∃ rest, sourceLines source = sourceLines front.flatten ++ .garbled :: rest := by
  rw [sourceLines, sourceLines, (Text.cutAfter_front hlines).1, hlines, numberLines_append,
    numberLines, SourceLine.ofBytes?_eq_garbled hgarbled]
  exact ⟨_, rfl⟩

/-! ### Reading up to it -/

/-- A line that is no text is the fault, unless the lines before it hold a pair with a wrong second
line. -/
theorem readLines_append_garbled {xs : List SourceLine}
    (h : ∀ n opener got, readLines xs ≠ .error (.parse n (.wrongSecond opener got)))
    (ys : List SourceLine) : readLines (xs ++ .garbled :: ys) = .error (.io .notUtf8) := by
  cases hread : readLines xs with
  | ok ds =>
      rw [readLines_append_of_ok hread]
      rfl
  | error fault =>
      obtain ⟨read, rest, rfl, ⟨ds, hds⟩, hstuck⟩ := readLines_stuck hread
      cases hstuck with
      | garbled => exact readLines_append_of_error hread (by simp [Fault.IsCutOff]) _
      | garbledSecond hopens => exact readLines_append_of_error hread (by simp [Fault.IsCutOff]) _
      | wrongSecond hopens hunfit => exact absurd hread (h _ _ _)
      | @cutOff number line opened opener hopens =>
          -- The line comes in the place of the second line that was missing.
          have hsecond : Stuck (.text number line :: .garbled :: ys) (.io .notUtf8) :=
            .garbledSecond hopens
          rw [List.append_assoc, readLines_append_of_ok hds, List.singleton_append,
            hsecond.readLines_eq]
          rfl

/-- The source is a text that ends within a pair: behind lines that are accepted there is an opener,
and behind the opener there are blank lines only. -/
def EndsInPair (source : Text.Bytes) : Prop :=
  ∃ text before n opener, source = Text.Utf8.encode text ∧ Accepted before ∧
    BrokenBehind (Text.physicalLines text) before n (.cutOff opener)

/-- A text is accepted, ends within a pair, or has a pair with a wrong second line. -/
theorem readDirectives_cases (text : String) :
    (∃ ds, readDirectives (Text.Utf8.encode text) = .ok ds) ∨ EndsInPair (Text.Utf8.encode text) ∨
      ∃ n opener got,
        readDirectives (Text.Utf8.encode text) = .error (.parse n (.wrongSecond opener got)) := by
  cases hread : readDirectives (Text.Utf8.encode text) with
  | ok ds => exact .inl ⟨ds, rfl⟩
  | error fault =>
      obtain ⟨before, n, pair, rfl, hbefore, hbroken⟩ := exists_brokenBehind hread
      cases pair with
      | cutOff opener => exact .inr (.inl ⟨text, before, n, opener, rfl, hbefore, hbroken⟩)
      | wrongSecond opener got => exact .inr (.inr ⟨n, opener, got, rfl⟩)

/-- **The first fault is told.** A source is cut into lines behind each line feed.

* If every line is a text, the source is never refused for a line that is none.
* Otherwise let `a` be what stands before the first line that is none. If `a` by itself is refused
  for a wrong second line, then so is the source, and everything else that begins with `a`: for the
  same line of the same pair.
* If not, then `a` is accepted or ends within a pair, and the source is refused for the line that is
  no text. -/
theorem readDirectives_first_fault (source : Text.Bytes) :
    let lines := Text.cutAfter Text.lineFeed source
    let unreadable : Fault := .io .notUtf8
    unreadable.message = "IO error: stream did not contain valid UTF-8" ∧
    ((∀ line ∈ lines, Text.Utf8.WellFormed line) →
      ∀ fault, readDirectives source ≠ .error (.io fault)) ∧
    ∀ front garbled behind, lines = front ++ garbled :: behind →
      (∀ line ∈ front, Text.Utf8.WellFormed line) → ¬Text.Utf8.WellFormed garbled →
      let a := front.flatten
      let told n opener got : Except Fault (List Directive) :=
        .error (.parse n (.wrongSecond opener got))
      (∀ n opener got, readDirectives a = told n opener got →
        readDirectives source = told n opener got ∧
        ∀ other : Text.Bytes, readDirectives (a ++ other) = told n opener got) ∧
      ((∀ n opener got, readDirectives a ≠ told n opener got) →
        ((∃ ds, readDirectives a = .ok ds) ∨ EndsInPair a) ∧
        readDirectives source = .error unreadable) := by
  intro lines unreadable
  refine ⟨rfl, fun htexts fault hread => ?_, fun front garbled behind hlines hfront hgarbled => ?_⟩
  · obtain ⟨text, rfl⟩ := exists_text_of_lines htexts
    obtain ⟨-, n, pair, hfault, -⟩ := exists_brokenBehind hread
    cases hfault
  intro a told
  obtain ⟨rest, hrest⟩ := sourceLines_of_garbled hlines hgarbled
  refine ⟨fun n opener got hread => ?_, fun hread => ⟨?_, ?_⟩⟩
  · have hstands : ¬(Fault.parse n (.wrongSecond opener got)).IsCutOff := by simp [Fault.IsCutOff]
    refine ⟨?_, fun other => ?_⟩
    · rw [readDirectives, hrest]
      exact readLines_append_of_error hread hstands _
    · have hended : Text.Ended Text.lineFeed a := (Text.cutAfter_front hlines).2 (by simp)
      rw [readDirectives, sourceLines_append hended]
      exact readLines_append_of_error hread hstands _
  · obtain ⟨text, htext⟩ := Text.Utf8.exists_encode_flatten hfront
    have ha : a = Text.Utf8.encode text := htext
    rw [ha] at hread ⊢
    rcases readDirectives_cases text with hok | hcut | ⟨n, opener, got, hwrong⟩
    · exact .inl hok
    · exact .inr hcut
    · exact absurd hwrong (hread n opener got)
  · rw [readDirectives, hrest]
    exact readLines_append_garbled hread rest

/-- A check whose second line would be bytes that are no text: the opener alone is told as cut off,
but those bytes come first. With an include between them the include is told. -/
theorem readDirectives_first_fault_behind_opener :
    let opened := ["include a.mk\n", "# check go\n", "\n"].map Text.Utf8.encode
    let broken := opened ++ [Text.Utf8.encode "include b.mk\n"]
    let garbled : Text.Bytes := [0x23, 0xFF, 0x0A]
    let fault : Fault := .parse 4 (.wrongSecond .check "include b.mk")
    (∀ line ∈ broken, Text.Utf8.WellFormed line) ∧ ¬Text.Utf8.WellFormed garbled ∧
      readDirectives opened.flatten = .error (.parse 2 (.cutOff .check)) ∧
      readDirectives (opened.flatten ++ garbled) = .error (.io .notUtf8) ∧
      readDirectives broken.flatten = .error fault ∧
      readDirectives (broken.flatten ++ garbled) = .error fault := by
  intro opened broken garbled fault
  have hopenedTexts : ∀ line ∈ opened, Text.Utf8.WellFormed line :=
    List.forall_mem_map.mpr fun s _ => ⟨s, rfl⟩
  have hbrokenTexts : ∀ line ∈ broken, Text.Utf8.WellFormed line :=
    List.forall_mem_append.mpr ⟨hopenedTexts, List.forall_mem_singleton.mpr ⟨_, rfl⟩⟩
  have hgarbled : ¬Text.Utf8.WellFormed garbled := by
    rintro ⟨s, hs⟩
    have hnone : Text.Utf8.decode? garbled = none := by decide
    rw [hs, Text.Utf8.decode?_encode] at hnone
    cases hnone
  have hopened : readDirectives opened.flatten = .error (.parse 2 (.cutOff .check)) := by decide
  have hbroken : readDirectives broken.flatten = .error fault := by decide
  obtain ⟨-, -, hfirst⟩ := readDirectives_first_fault (opened.flatten ++ garbled)
  obtain ⟨-, -, hfirst'⟩ := readDirectives_first_fault (broken.flatten ++ garbled)
  obtain ⟨-, hunreadable⟩ := hfirst opened garbled [] (by decide) hopenedTexts hgarbled
  obtain ⟨hwrong, -⟩ := hfirst' broken garbled [] (by decide) hbrokenTexts hgarbled
  exact ⟨hbrokenTexts, hgarbled, hopened, (hunreadable (by simp [hopened])).2, hbroken,
    (hwrong _ _ _ hbroken).1⟩

end Ensemble
