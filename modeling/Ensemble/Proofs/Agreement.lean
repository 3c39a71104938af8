import Ensemble.Proofs.Labelling
import Ensemble.Proofs.Mirroring

/-!
# Ensemble.Proofs.Agreement

**What is captured and what is shown agree.** A command that is mirrored to a labeller feeds two
buffers: all its bytes are captured, and the labeller passes on whole lines and holds back the rest.
The main result, `attend_shows_captured`, says that on a console that never refuses the lines shown
are in the end those of the captured bytes, for every schedule of the two pumps.

Neither buffer knows of the other, nor of the pump a chunk comes from. They are kept together by
`Reading.InStep`: the captured bytes are the one unfinished segment of the labeller's history. A
turn of a pump gives both the same chunk and keeps it so (`InStep.turn`), and the end of the command
finishes the segment (`InStep.conclude`).
-/

namespace Ensemble

/-! ### The labeller as a sink -/

namespace Sink

variable {s : Labeller × Console} (hc : s.2.NeverRefuses)

include hc

/-- On a console that never refuses, a labeller takes every chunk. -/
theorem offer_labelled (chunk : Chunk) :
    labelled.offer s chunk = (.ok (), ((Labeller.Step.offer chunk).perform s).2) := by
  have hanswer : (labelled.offer s chunk).1 = .ok () := by
    simp only [labelled, Labeller.write, Labeller.passOn_eq_serveAll,
      Console.serveAll_of_neverRefuses hc, Except.map]
  exact Prod.ext hanswer rfl

/-- And it can be finished. -/
theorem finish_labelled : labelled.finish s = (.ok (), (Labeller.Step.finish.perform s).2) := by
  have hanswer : (labelled.finish s).1 = .ok () := by
    simp only [labelled, Labeller.finish, Labeller.passOn_eq_serveAll,
      Console.serveAll_of_neverRefuses hc]
  exact Prod.ext hanswer rfl

end Sink

/-! ### Two buffers in step -/

namespace Reading

/-- The captured bytes are the unfinished segment of what the labeller has been given, and nothing
has been refused. -/
structure InStep (tag : String) (before : Console) (r : Reading (Labeller × Console)) : Prop where
  follows : Labeller.Follows tag before { unfinished := r.captured } r.receiver
  refusals_eq : r.refusals = []

variable {tag : String} {before : Console} {r : Reading (Labeller × Console)}

theorem inStep_start (hc : before.NeverRefuses) (reads : Stream → List Read) :
    InStep tag before (.start reads ({ tag }, before)) :=
  ⟨Labeller.follows_start hc, rfl⟩

/-- A chunk goes to both buffers. -/
theorem InStep.take (h : InStep tag before r) (chunk : Chunk) :
    InStep tag before (r.take (some .labelled) chunk) := by
  have hoffer := Sink.offer_labelled h.follows.neverRefuses chunk
  unfold Reading.take
  dsimp only
  rw [hoffer]
  exact ⟨h.follows.step (.offer chunk), h.refusals_eq⟩

/-- A turn of a pump gives both buffers the same bytes, or none. -/
theorem InStep.turn (h : InStep tag before r) (stream : Stream) :
    InStep tag before (r.turn (some .labelled) stream) := by
  unfold Reading.turn
  rcases (r.pumps stream).turn with ⟨pump, bytes?⟩
  cases bytes? with
  | none => exact ⟨h.follows, h.refusals_eq⟩
  | some bytes =>
      refine InStep.take (r := { r with pumps := _ }) ⟨?_, ?_⟩ ⟨stream, bytes⟩
      · exact h.follows
      · exact h.refusals_eq

/-- So does every schedule, wherever it ends. -/
theorem InStep.run (h : InStep tag before r) (schedule : List Stream) :
    InStep tag before (schedule.foldl (Reading.turn (some .labelled)) r) := by
  induction schedule generalizing r with
  | nil => exact h
  | cons stream schedule ih => exact ih (h.turn stream)

/-- The lines of the captured bytes are shown, and their rest is held back. -/
theorem InStep.shown (h : InStep tag before r) :
    ∃ lines, Text.IsCut Text.lineFeed r.captured lines r.receiver.1.pending ∧
      r.receiver.2.bytes = before.bytes ++ lines.flatMap (Labeller.lineBytes tag) := by
  obtain ⟨cuts, lines, hcuts, hcut, hstored⟩ := h.follows.stored
  cases hcuts
  refine ⟨lines, hcut, ?_⟩
  rw [Console.bytes, hstored, List.flatten_append, List.flatMap_def]
  rfl

/-- The end of the command adds the rest, and leaves nothing held back. -/
theorem InStep.conclude (h : InStep tag before r) (command : String) (status : ExitStatus) :
    ∃ l c lines rest,
      (r.conclude (some .labelled) command (.ok ()) (.ok ()) (.ok status)).2 = ([], l, c) ∧
      Text.IsCut Text.lineFeed r.captured lines rest ∧
      c.bytes = before.bytes ++
        (Labeller.closedLines (lines, rest)).flatMap (Labeller.lineBytes tag) ∧
      l.pending = [] := by
  have hfinish := Sink.finish_labelled h.follows.neverRefuses
  have hfollows := h.follows.step .finish
  generalize (Labeller.Step.finish.perform r.receiver).2 = after at hfinish hfollows
  obtain ⟨l, c⟩ := after
  obtain ⟨cuts, lines', hcuts, hcut, hstored⟩ := hfollows.stored
  -- The one finished segment is what has been captured, and none is left unfinished.
  obtain ⟨⟨lines, rest⟩, rfl, hcaptured⟩ : ∃ cut, cuts = [cut] ∧
      Text.IsCut Text.lineFeed r.captured cut.1 cut.2 := by
    cases hcuts with
    | cons hcut htail =>
        cases htail
        exact ⟨_, rfl, hcut⟩
  obtain ⟨rfl, hpending⟩ := hcut.unique (Text.isCut_nil _)
  refine ⟨l, c, lines, rest, ?_, hcaptured, ?_, hpending⟩
  · simp only [Reading.conclude, hfinish, noted, h.refusals_eq]
  · rw [Console.bytes, hstored, List.flatten_append]
    simp [List.flatMap_def, Console.bytes]

end Reading

/-! ### Commands that are attended to -/

open Reading in
/-- **What is captured and what is shown agree.** A command is mirrored to a new labeller, on a
console that never refuses.

* Wherever a schedule stops, the lines that the captured bytes complete have been written behind the
  label, and held back is what stands behind the last of them.
* If no read fails and every pump has turns enough to read its stream to the end, the captured bytes
  are the chunks of both streams, in the order of their reads. However the command ends, its result
  is told by these bytes, the console has their lines and then their rest unless that is empty, each
  behind the label and ended by a line feed, and nothing is held back. -/
theorem attend_shows_captured (label : String) {width : Nat} (hw : width ≤ maxLabelWidth)
    {console : Console} (hc : console.NeverRefuses) (command : String)
    {pieces : Stream → List Text.Bytes} {schedule : List Stream}
    (hpieces : ∀ stream, ∀ piece ∈ pieces stream, piece ≠ [])
    (hturns : ∀ stream, (pieces stream).length < schedule.count stream) :
    ∃ labeller, Labeller.new? label width = some labeller ∧
      let reads : Stream → List Read := fun stream => (pieces stream).map .ok
      let reading (schedule : List Stream) : Reading (Labeller × Console) :=
        schedule.foldl (turn (some .labelled)) (.start reads (labeller, console))
      let labelled (line : Text.Bytes) : Text.Bytes :=
        Text.Utf8.encode (Labeller.tagOf label width) ++ line ++ [Text.lineFeed]
      (∀ schedule, ∃ lines,
        Text.IsCut Text.lineFeed (reading schedule).captured lines
          (reading schedule).receiver.1.pending ∧
        (reading schedule).receiver.2.bytes = console.bytes ++ lines.flatMap labelled) ∧
      ∃ chunks : List Chunk, (∀ stream, piecesOf chunks stream = pieces stream) ∧
        (reading schedule).captured = chunks.flatMap (·.bytes) ∧
        ∀ status, ∃ labeller' console' lines rest,
          attend command (some .labelled) (labeller, console) reads (.ok status) schedule =
            some (Transcript.result ⟨chunks, status⟩ command, [], labeller', console') ∧
          Text.IsCut Text.lineFeed (chunks.flatMap (·.bytes)) lines rest ∧
          console'.bytes = console.bytes ++
            (lines ++ if rest = [] then [] else [rest]).flatMap labelled ∧
          labeller'.pending = [] := by
  refine ⟨{ tag := Labeller.tagOf label width }, if_pos hw, ?_⟩
  intro reads reading labelled
  have hstep (schedule : List Stream) :
      InStep (Labeller.tagOf label width) console (reading schedule) :=
    (inStep_start hc reads).run schedule
  refine ⟨fun schedule => (hstep schedule).shown, ?_⟩
  have hread := readOn_pieces hpieces hturns
  have hreceived := foldl_turn (some Sink.labelled)
    (.start reads ({ tag := Labeller.tagOf label width }, console)) schedule
  have hcaptured : (reading schedule).captured =
      (readOn (fun stream => .reading (reads stream)) schedule).1.flatMap (·.bytes) := by
    simp only [reading, hreceived]
    rfl
  refine ⟨_, fun stream => (hread stream).1, hcaptured, fun status => ?_⟩
  have hpumps (stream : Stream) : (reading schedule).pumps stream = .returned (.ok ()) := by
    simp only [reading, hreceived]
    exact (hread stream).2
  have hattend : attend command (some .labelled) ({ tag := Labeller.tagOf label width }, console)
      reads (.ok status) schedule =
        some ((reading schedule).conclude (some .labelled) command (.ok ()) (.ok ())
          (.ok status)) := by
    simp only [attend, reading] at hpumps ⊢
    rw [hpumps .out, hpumps .err]
  obtain ⟨labeller', console', lines, rest, hconclude, hcut, hbytes, hpending⟩ :=
    (hstep schedule).conclude command status
  refine ⟨labeller', console', lines, rest, ?_, hcaptured ▸ hcut, hbytes, hpending⟩
  -- The result is that of the chunks, which does not depend on the sink.
  have hresult := congrArg Prod.fst (Option.some.inj (hattend.symm.trans
    (attend_eq_conclude hpieces hturns command (some Sink.labelled)
      ({ tag := Labeller.tagOf label width }, console) status)))
  rw [hattend, Option.some.injEq]
  exact Prod.ext hresult hconclude

/-- The two bytes of a character come from two streams, and the last line is not ended: the console
has both lines of what was captured. -/
theorem attend_shows_captured_split :
    let pieces : Stream → List Text.Bytes
      | .out => [[0xC3], [0x0A, 0x62]]
      | .err => [[0xA9]]
    let schedule : List Stream := [.out, .err, .out, .out, .err]
    12 ≤ maxLabelWidth ∧ Console.sound.NeverRefuses ∧
      (∀ stream, ∀ piece ∈ pieces stream, piece ≠ []) ∧
      (∀ stream, (pieces stream).length < schedule.count stream) ∧
      ∃ labeller labeller' console', Labeller.new? "api" 12 = some labeller ∧
        attend "make run" (some .labelled) (labeller, .sound)
            (fun stream => (pieces stream).map .ok) (.ok (.exited 2)) schedule =
          some (.error (.commandFailed "make run" (some 2) "\u00e9\nb"), [], labeller', console') ∧
        console'.bytes = Text.Utf8.encode "api         | \u00e9\napi         | b\n" ∧
        labeller'.pending = [] := by
  intro pieces schedule
  have hw : 12 ≤ maxLabelWidth := by decide
  have hpieces : ∀ stream, ∀ piece ∈ pieces stream, piece ≠ [] := by
    intro stream
    cases stream <;> simp [pieces]
  have hturns : ∀ stream, (pieces stream).length < schedule.count stream := by
    intro stream
    cases stream <;> decide
  refine ⟨hw, Console.neverRefuses_sound, hpieces, hturns, ?_⟩
  obtain ⟨labeller, hlabeller, -, chunks, -, hcaptured, hstatus⟩ := attend_shows_captured "api" hw
    Console.neverRefuses_sound "make run" hpieces hturns
  obtain rfl : { tag := Labeller.tagOf "api" 12 } = labeller := Option.some.inj hlabeller
  obtain ⟨labeller', console', lines, rest, hattend, hcut, hbytes, hpending⟩ :=
    hstatus (.exited 2)
  have hchunks : chunks.flatMap (·.bytes) = [0xC3, 0xA9, 0x0A, 0x62] := hcaptured.symm
  rw [Transcript.result_eq, hchunks] at hattend
  rw [hchunks] at hcut
  have hlines : Text.IsCut Text.lineFeed [0xC3, 0xA9, 0x0A, 0x62] [[0xC3, 0xA9]] [0x62] :=
    ⟨rfl, by decide, by decide⟩
  obtain ⟨rfl, rfl⟩ := hcut.unique hlines
  exact ⟨_, labeller', console', rfl, hattend, hbytes, hpending⟩

end Ensemble
