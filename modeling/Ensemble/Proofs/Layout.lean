import Ensemble.Proofs.Rendering

/-!
# Ensemble.Proofs.Layout

**What a root file looks like does not matter.** The lines of a text can be ended in two ways, and
blank lines can stand between them. The main result, `readDirectives_layout`, says that neither
changes what is read: the same lines give the same directives or the same fault, however they are
ended (`LaidOut`), and with blank lines put between them (`spread`) a fault is told at the same line,
which stands further down by as many lines as have been put before it.

All this is about the lines that the reader finds. They are those of the list that has been laid out
(`LaidOut.writtenLines_eq`), and putting blank lines between them only gives them other numbers
(`written_spread`), which are told in faults and nowhere else.
-/

namespace Ensemble

namespace Text

/-! ### Ways to lay out lines -/

/-- A text that consists of these lines. Each is ended, by a line feed or by a carriage return and a
line feed; only the last need not be. A carriage return right before a line feed belongs to the end
of the line, so a line that has one of its own at its end is ended in the second way. -/
inductive LaidOut : List String → String → Prop
  | nil : LaidOut [] ""
  | line {line ending text : String} {lines : List String} (hline : '\n' ∉ line.toList)
    (hending : ending = "\r\n" ∨ ending = "\n" ∧ line.toList.getLast? ≠ some '\r')
    (h : LaidOut lines text) : LaidOut (line :: lines) (line ++ ending ++ text)
  | last {line : String} (hline : '\n' ∉ line.toList) : LaidOut [line] line

/-- A line feed is all that is lost of a line that does not end in a carriage return. -/
theorem withoutTerminator_lf {line : List Char} (h : line.getLast? ≠ some '\r') :
    withoutTerminator (line ++ ['\n']) = line := by
  rcases List.eq_nil_or_concat' line with rfl | ⟨front, c, rfl⟩
  · rfl
  · have hc : c ≠ '\r' := by simpa using h
    simp [withoutTerminator, hc]

theorem lines_lf {line : String} (h : '\n' ∉ line.toList)
    (hlast : line.toList.getLast? ≠ some '\r') : lines (line ++ "\n") = [line] := by
  have hstripped : withoutTerminator (line.toList ++ "\n".toList) = line.toList :=
    withoutTerminator_lf hlast
  rw [lines_ended h (.inl rfl), hstripped, String.ofList_toList]

/-- Every text is a layout of its lines. -/
theorem laidOut_lines (text : String) : LaidOut (lines text) text := by
  induction text using induction_on_lines with
  | last line hline =>
      rw [lines_of_not_mem hline]
      split
      · rename_i hempty
        exact hempty ▸ .nil
      · exact .last hline
  | step line rest hline ih =>
      rw [lines_append (ended_append_ending (.inl rfl))]
      by_cases hlast : line.toList.getLast? = some '\r'
      · -- The carriage return is part of the end.
        obtain ⟨front, hfront⟩ := List.getLast?_eq_some_iff.mp hlast
        obtain rfl : line = .ofList front ++ "\r" := String.toList_injective (by simp [hfront])
        have hcrlf : String.ofList front ++ "\r" ++ "\n" = .ofList front ++ "\r\n" := by
          rw [String.append_assoc]
          rfl
        have hfront' : '\n' ∉ (String.ofList front).toList :=
          fun hmem => hline (by simp [String.toList_ofList ▸ hmem])
        rw [hcrlf, lines_crlf hfront']
        exact .line hfront' (.inl rfl) ih
      · rw [lines_lf hline hlast]
        exact .line hline (.inr ⟨rfl, hlast⟩) ih

/-! ### Lines under their numbers -/

/-- The lines that are not blank, numbered from `number` on by their place among all. -/
def written (number : Nat) (lines : List String) : List (String × Nat) :=
  (lines.zipIdx number).filter fun line => !isAllBlank line.1

theorem written_append (number : Nat) (front behind : List String) :
    written number (front ++ behind) =
      written number front ++ written (number + front.length) behind := by
  rw [written, List.zipIdx_append, List.filter_append]
  rfl

/-- Nothing is written in blank lines. -/
theorem written_of_blank {lines : List String} (h : ∀ line ∈ lines, isAllBlank line = true)
    (number : Nat) : written number lines = [] := by
  refine List.filter_eq_nil_iff.mpr fun line hline => ?_
  simp [h line.1 (List.fst_mem_of_mem_zipIdx hline)]

theorem LaidOut.lines_eq {lines : List String} {text : String} (h : LaidOut lines text) :
    Text.lines text = lines ∨ lines = Text.lines text ++ [""] := by
  induction h with
  | nil => exact .inl rfl
  | @line line ending text lines hline hending h ih =>
      have hone : Text.lines (line ++ ending) = [line] := by
        rcases hending with rfl | ⟨rfl, hlast⟩
        · exact lines_crlf hline
        · exact lines_lf hline hlast
      have hended : IsEnding ending := hending.symm.imp And.left id
      rw [lines_append (ended_append_ending hended), hone]
      exact ih.imp (congrArg (line :: ·)) (congrArg (line :: ·))
  | @last line hline =>
      rw [lines_of_not_mem hline]
      split
      · rename_i hempty
        exact .inr (by rw [hempty]; rfl)
      · exact .inl rfl

/-- A layout has the lines that were laid out. One that is empty may be missing at the end, and it
would be blank. -/
theorem LaidOut.writtenLines_eq {lines : List String} {text : String} (h : LaidOut lines text) :
    writtenLines text = written 1 lines := by
  rcases h.lines_eq with heq | heq
  · rw [writtenLines, heq, written]
  · have hempty : ∀ line ∈ [""], isAllBlank line = true := by simp
    rw [heq, written_append, written_of_blank hempty, List.append_nil]
    rfl

/-! ### Lines between lines -/

/-- Lines with others put between them: the line of each index has those of `gaps` before it, and
behind the last line stand those of the next index. The first line has index `k`. -/
def spread (gaps : Nat → List String) (k : Nat) : List String → List String
  | [] => gaps k
  | line :: lines => gaps k ++ line :: spread gaps (k + 1) lines

/-- How many lines have been put before the line that had the number `n`, which is that of index
`n - 1`. -/
def putBefore (gaps : Nat → List String) (n : Nat) : Nat :=
  ((List.range n).flatMap gaps).length

theorem putBefore_succ (gaps : Nat → List String) (n : Nat) :
    putBefore gaps (n + 1) = putBefore gaps n + (gaps n).length := by
  simp [putBefore, List.range_succ]

/-- Blank lines between lines only change their numbers. -/
theorem written_spread {gaps : Nat → List String}
    (hgaps : ∀ k, ∀ line ∈ gaps k, isAllBlank line = true) (k : Nat) (lines : List String) :
    written (k + 1 + putBefore gaps k) (spread gaps k lines) =
      (written (k + 1) lines).map fun line => (line.1, line.2 + putBefore gaps line.2) := by
  induction lines generalizing k with
  | nil => rw [spread, written_of_blank (hgaps k)]; rfl
  | cons line lines ih =>
      have hcons (number : Nat) (others : List String) : written number (line :: others) =
          written number [line] ++ written (number + 1) others :=
        written_append number [line] others
      have hnumber : k + 1 + putBefore gaps k + (gaps k).length =
          k + 1 + putBefore gaps (k + 1) := by
        rw [putBefore_succ, Nat.add_assoc]
      have hnext : k + 1 + putBefore gaps (k + 1) + 1 = k + 1 + 1 + putBefore gaps (k + 1) := by
        omega
      rw [spread, written_append, written_of_blank (hgaps k), List.nil_append, hnumber, hcons,
        hcons (k + 1), hnext, ih, List.map_append]
      congr 1
      cases hblank : isAllBlank line <;> simp [written, hblank]

end Text

/-! ### Reading a layout -/

/-- What is read from a layout depends on the lines that were laid out. -/
theorem readDirectives_of_laidOut {lines : List String} {text : String}
    (h : Text.LaidOut lines text) :
    readDirectives (Text.Utf8.encode text) =
      readLines ((Text.written 1 lines).map SourceLine.ofLine) := by
  rw [readDirectives, sourceLines_encode, h.writtenLines_eq]

/-- With blank lines between them the same lines are read under other numbers. -/
theorem readDirectives_spread {lines : List String} {text text' : String}
    {gaps : Nat → List String} (hgaps : ∀ k, ∀ line ∈ gaps k, Text.isAllBlank line = true)
    (h : Text.LaidOut lines text) (h' : Text.LaidOut (Text.spread gaps 0 lines) text') :
    readDirectives (Text.Utf8.encode text') =
      (readDirectives (Text.Utf8.encode text)).mapError
        (Fault.renumber fun n => n + Text.putBefore gaps n) := by
  have hwritten : Text.written 1 (Text.spread gaps 0 lines) = _ :=
    Text.written_spread hgaps 0 lines
  rw [readDirectives_of_laidOut h', readDirectives_of_laidOut h, ← readLines_map_renumber,
    hwritten, List.map_map, List.map_map]
  rfl

/-- **Layout does not matter.** Every text is a layout of its lines, and whatever the lines are:

* all layouts of them are read in the same way, up to the number and the wording of a fault;
* so are all layouts of them with blank lines put anywhere between them, but that the line of a
  fault has a higher number then, by the number of lines that have been put before it. -/
theorem readDirectives_layout :
    (∀ text, Text.LaidOut (Text.lines text) text) ∧
    ∀ lines text, Text.LaidOut lines text →
      (∀ text', Text.LaidOut lines text' →
        readDirectives (Text.Utf8.encode text') = readDirectives (Text.Utf8.encode text)) ∧
      ∀ gaps text', (∀ k, ∀ line ∈ gaps k, Text.isAllBlank line = true) →
        Text.LaidOut (Text.spread gaps 0 lines) text' →
        (∀ ds, readDirectives (Text.Utf8.encode text) = .ok ds →
          readDirectives (Text.Utf8.encode text') = .ok ds) ∧
        ∀ n pair, readDirectives (Text.Utf8.encode text) = .error (.parse n pair) →
          readDirectives (Text.Utf8.encode text') =
            .error (.parse (n + Text.putBefore gaps n) pair) := by
  refine ⟨Text.laidOut_lines, fun lines text h => ⟨fun text' h' => ?_, ?_⟩⟩
  · rw [readDirectives_of_laidOut h', readDirectives_of_laidOut h]
  · intro gaps text' hgaps h'
    have hread := readDirectives_spread hgaps h h'
    refine ⟨fun ds hds => ?_, fun n pair hfault => ?_⟩
    · rw [hread, hds]
      rfl
    · rw [hread, hfault]
      rfl

/-- An include in the place of an expected text, with a blank line before the check and two between
it and the include: one of a no-break space, and one of a tab and a carriage return. Another line
is put behind all. -/
theorem readDirectives_layout_gap_in_pair :
    let lines := ["include a.mk", "# check go", "include b.mk"]
    let text := "include a.mk\n# check go\r\ninclude b.mk"
    let gaps (k : Nat) := [[], [""], ["\u00A0", "\t\r"], [" "]].getD k []
    let text' := "include a.mk\r\n\n# check go\n\u00A0\n\t\r\r\ninclude b.mk\n "
    Text.LaidOut lines text ∧ Text.LaidOut (Text.spread gaps 0 lines) text' ∧
      readDirectives (Text.Utf8.encode text) =
        .error (.parse 3 (.wrongSecond .check "include b.mk")) ∧
      readDirectives (Text.Utf8.encode text') =
        .error (.parse 6 (.wrongSecond .check "include b.mk")) := by
  intro lines text gaps text'
  have htext : Text.LaidOut lines text :=
    .line (by decide) (.inr ⟨rfl, by decide⟩) (.line (by decide) (.inl rfl) (.last (by decide)))
  have htext' : Text.LaidOut (Text.spread gaps 0 lines) text' :=
    .line (by decide) (.inl rfl) (.line (by decide) (.inr ⟨rfl, by decide⟩)
      (.line (by decide) (.inr ⟨rfl, by decide⟩) (.line (by decide) (.inr ⟨rfl, by decide⟩)
        (.line (by decide) (.inl rfl) (.line (by decide) (.inr ⟨rfl, by decide⟩)
          (.last (by decide)))))))
  have hgaps : ∀ k, ∀ line ∈ gaps k, Text.isAllBlank line = true := by
    intro k
    match k with
    | 0 | 1 | 2 | 3 => decide
    | _ + 4 => exact fun line hline => by cases hline
  have hread : readDirectives (Text.Utf8.encode text) =
      .error (.parse 3 (.wrongSecond .check "include b.mk")) := by decide
  obtain ⟨-, hlayouts⟩ := readDirectives_layout
  exact ⟨htext, htext', hread, ((hlayouts lines text htext).2 gaps text' hgaps htext').2 _ _ hread⟩

end Ensemble
