import Ensemble.Reading

/-!
# Ensemble.Proofs.Mirroring

**The result of a command does not depend on what its output is mirrored to.** The main result,
`attend_whatever_mirror`, compares the commands that are attended to with a sink and without one, for
every schedule of the two pumps and every sink, whatever it refuses.

What is read and when does not depend on the sink: it is told by the pumps and the schedule alone
(`Reading.readOn`). A reading receives just these chunks, in their order (`Reading.foldl_turn`), and
of the chunks of one stream it does not matter when the other pump has its turns
(`Reading.readOn_stream`). From this the whole of what is attended to follows, as a `Transcript`.
-/

namespace Ensemble

/-! ### Sinks -/

namespace Sink

/-- What an answer of a sink refuses. -/
def refusal : Except IoFault Unit → List IoFault
  | .ok () => []
  | .error fault => [fault]

theorem offerAll_cons (sink : Sink σ) (chunk : Chunk) (chunks : List Chunk) (s : σ) :
    sink.offerAll (chunk :: chunks) s =
      let (answer, s) := sink.offer s chunk
      let (faults, s) := sink.offerAll chunks s
      (refusal answer ++ faults, s) := by
  rw [offerAll]
  dsimp only
  split <;> rename_i h <;> rw [h] <;> rfl

theorem offerAll_append (sink : Sink σ) (chunks chunks' : List Chunk) (s : σ) :
    sink.offerAll (chunks ++ chunks') s =
      let (faults, s) := sink.offerAll chunks s
      let (faults', s) := sink.offerAll chunks' s
      (faults ++ faults', s) := by
  induction chunks generalizing s with
  | nil => rfl
  | cons chunk chunks ih => simp only [List.cons_append, offerAll_cons, ih, List.append_assoc]

theorem mirror_eq (sink : Sink σ) (chunks : List Chunk) (s : σ) :
    sink.mirror chunks s =
      let (faults, s) := sink.offerAll chunks s
      let (answer, s) := sink.finish s
      (faults ++ refusal answer, s) := by
  rw [mirror]
  dsimp only
  split <;> rename_i h <;> rw [h] <;> simp [refusal]

end Sink

/-! ### One pump -/

namespace Pump

/-- What a pump reads in a number of turns, and the pump after them. -/
def turns (pump : Pump) : Nat → List Text.Bytes × Pump
  | 0 => ([], pump)
  | n + 1 =>
    let (pieces, after) := pump.turn.1.turns n
    (pump.turn.2.toList ++ pieces, after)

theorem turns_returned (result : Except String Unit) (n : Nat) :
    (Pump.returned result).turns n = ([], .returned result) := by
  induction n with
  | zero => rfl
  | succ n ih => simp [turns, turn, ih]

/-- A pump that has one turn more than there are pieces reads them all, and returns. -/
theorem turns_reading {pieces : List Text.Bytes} (h : ∀ piece ∈ pieces, piece ≠ []) {n : Nat}
    (hn : pieces.length < n) :
    (Pump.reading (pieces.map .ok)).turns n = (pieces, .returned (.ok ())) := by
  induction pieces generalizing n with
  | nil =>
      obtain ⟨n, rfl⟩ := Nat.exists_eq_add_of_lt hn
      simp [turns, turn, turns_returned]
  | cons piece pieces ih =>
      obtain ⟨hpiece, hpieces⟩ := List.forall_mem_cons.mp h
      cases n with
      | zero => simp at hn
      | succ n =>
          have hrest := ih hpieces (Nat.lt_of_succ_lt_succ hn)
          simp [turns, turn, hpiece, hrest]

end Pump

/-! ### What is read -/

namespace Reading

/-- The pumps after a turn of one of them. -/
def pumpsAfter (pumps : Stream → Pump) (stream : Stream) : Stream → Pump :=
  fun s => if s = stream then (pumps stream).turn.1 else pumps s

theorem pumpsAfter_self (pumps : Stream → Pump) (stream : Stream) :
    pumpsAfter pumps stream stream = (pumps stream).turn.1 :=
  if_pos rfl

theorem pumpsAfter_of_ne (pumps : Stream → Pump) {s stream : Stream} (h : s ≠ stream) :
    pumpsAfter pumps s stream = pumps stream :=
  if_neg (Ne.symm h)

/-- The chunk that is read in a turn, if there is one. -/
def chunksOf (pumps : Stream → Pump) (stream : Stream) : List Chunk :=
  (pumps stream).turn.2.toList.map (⟨stream, ·⟩)

/-- What is read in the turns of a schedule, and the pumps after them. -/
def readOn (pumps : Stream → Pump) : List Stream → List Chunk × (Stream → Pump)
  | [] => ([], pumps)
  | stream :: schedule =>
    let (chunks, after) := readOn (pumpsAfter pumps stream) schedule
    (chunksOf pumps stream ++ chunks, after)

/-- The pieces in which one stream has been read. -/
def piecesOf (chunks : List Chunk) (stream : Stream) : List Text.Bytes :=
  (chunks.filter (·.stream = stream)).map (·.bytes)

theorem piecesOf_append (chunks chunks' : List Chunk) (stream : Stream) :
    piecesOf (chunks ++ chunks') stream = piecesOf chunks stream ++ piecesOf chunks' stream := by
  simp [piecesOf]

theorem piecesOf_chunksOf_self (pumps : Stream → Pump) (stream : Stream) :
    piecesOf (chunksOf pumps stream) stream = (pumps stream).turn.2.toList := by
  simp [piecesOf, chunksOf, List.filter_map, Function.comp_def]

theorem piecesOf_chunksOf_of_ne (pumps : Stream → Pump) {s stream : Stream} (h : s ≠ stream) :
    piecesOf (chunksOf pumps s) stream = [] := by
  simp [piecesOf, chunksOf, h]

/-- For what is read of one stream, only the turns of its own pump count. -/
theorem readOn_stream (pumps : Stream → Pump) (schedule : List Stream) (stream : Stream) :
    let (chunks, after) := readOn pumps schedule
    (piecesOf chunks stream, after stream) = (pumps stream).turns (schedule.count stream) := by
  induction schedule generalizing pumps with
  | nil => rfl
  | cons s schedule ih =>
      have hrest := ih (pumpsAfter pumps s)
      rw [readOn]
      dsimp only at hrest ⊢
      rw [piecesOf_append]
      by_cases h : s = stream
      · subst h
        rw [pumpsAfter_self] at hrest
        rw [piecesOf_chunksOf_self, List.count_cons_self, Pump.turns, ← hrest]
      · rw [pumpsAfter_of_ne pumps h] at hrest
        rw [piecesOf_chunksOf_of_ne pumps h, List.count_cons_of_ne h, ← hrest, List.nil_append]

/-! ### What is received -/

variable (sink? : Option (Sink σ))

/-- Chunks offered to a sink one by one, if there is one. -/
def offered (chunks : List Chunk) (receiver : σ) : List IoFault × σ :=
  match sink? with
  | none => ([], receiver)
  | some sink => sink.offerAll chunks receiver

theorem offered_append (chunks chunks' : List Chunk) (receiver : σ) :
    offered sink? (chunks ++ chunks') receiver =
      let (faults, receiver) := offered sink? chunks receiver
      let (faults', receiver) := offered sink? chunks' receiver
      (faults ++ faults', receiver) := by
  cases sink? with
  | none => rfl
  | some sink => exact sink.offerAll_append chunks chunks' receiver

theorem noted_eq (r : Reading σ) (answered : Except IoFault Unit × σ) :
    r.noted answered =
      { r with receiver := answered.2, refusals := r.refusals ++ Sink.refusal answered.1 } := by
  obtain ⟨answer, receiver⟩ := answered
  cases answer <;> simp [noted, Sink.refusal]

/-- The reading after these chunks. -/
def received (r : Reading σ) (chunks : List Chunk) : Reading σ :=
  { r with
    captured := r.captured ++ chunks.flatMap (·.bytes)
    refusals := r.refusals ++ (offered sink? chunks r.receiver).1
    receiver := (offered sink? chunks r.receiver).2 }

theorem received_nil (r : Reading σ) : r.received sink? [] = r := by
  cases sink? <;> simp [received, offered, Sink.offerAll]

theorem received_append (r : Reading σ) (chunks chunks' : List Chunk) :
    r.received sink? (chunks ++ chunks') = (r.received sink? chunks).received sink? chunks' := by
  simp only [received, offered_append, List.flatMap_append, List.append_assoc]

theorem take_eq_received (r : Reading σ) (chunk : Chunk) :
    r.take sink? chunk = r.received sink? [chunk] := by
  cases sink? with
  | none => simp [take, received, offered]
  | some sink =>
      simp only [take, received, offered, noted_eq, Sink.offerAll_cons]
      simp [Sink.offerAll]

/-- **A turn**: what the pump reads is received. -/
theorem turn_eq_received (r : Reading σ) (stream : Stream) :
    r.turn sink? stream = { r with pumps := pumpsAfter r.pumps stream }.received sink?
      (chunksOf r.pumps stream) := by
  unfold turn chunksOf pumpsAfter
  rcases (r.pumps stream).turn with ⟨pump, bytes?⟩
  cases bytes? with
  | none => exact (received_nil sink? _).symm
  | some bytes => exact take_eq_received sink? _ _

/-- **A schedule**: what is read in its turns is received, in this order. -/
theorem foldl_turn (r : Reading σ) (schedule : List Stream) :
    schedule.foldl (turn sink?) r =
      { r with pumps := (readOn r.pumps schedule).2 }.received sink?
        (readOn r.pumps schedule).1 := by
  induction schedule generalizing r with
  | nil => exact (received_nil sink? r).symm
  | cons stream schedule ih =>
      rw [List.foldl_cons, turn_eq_received, ih, readOn]
      dsimp only
      rw [received_append]
      rfl

/-! ### What is concluded -/

/-- The result depends on what has been captured, and not on the sink. -/
theorem fst_conclude_eq {sink? : Option (Sink σ)} {sink'? : Option (Sink τ)} {r : Reading σ}
    {r' : Reading τ} (h : r.captured = r'.captured) (command : String)
    (out err : Except String Unit) (wait : Except String ExitStatus) :
    (r.conclude sink? command out err wait).1 = (r'.conclude sink'? command out err wait).1 := by
  cases out with
  | error reason => rfl
  | ok =>
      cases err with
      | error reason => rfl
      | ok =>
          cases wait with
          | error reason => rfl
          | ok status =>
              cases sink? <;> cases sink'? <;> simp only [conclude, noted_eq, h]

end Reading

/-! ### Sinks that keep a record -/

namespace Sink

/-- What is done to a sink. -/
inductive Deed
  | offered (chunk : Chunk)
  | finished
deriving DecidableEq, Repr

/-- A sink that answers like another one, and keeps a record of what is done to it. -/
def recorded (sink : Sink σ) : Sink (σ × List Deed) where
  offer := fun (s, deeds) chunk =>
    let (answer, s) := sink.offer s chunk
    (answer, s, deeds ++ [.offered chunk])
  finish := fun (s, deeds) =>
    let (answer, s) := sink.finish s
    (answer, s, deeds ++ [.finished])

theorem offer_recorded (sink : Sink σ) (s : σ) (deeds : List Deed) (chunk : Chunk) :
    sink.recorded.offer (s, deeds) chunk =
      ((sink.offer s chunk).1, (sink.offer s chunk).2, deeds ++ [.offered chunk]) := rfl

theorem offerAll_recorded (sink : Sink σ) (chunks : List Chunk) (s : σ) (deeds : List Deed) :
    sink.recorded.offerAll chunks (s, deeds) =
      let (faults, s) := sink.offerAll chunks s
      (faults, s, deeds ++ chunks.map .offered) := by
  induction chunks generalizing s deeds with
  | nil => simp [offerAll]
  | cons chunk chunks ih => simp [offerAll_cons, offer_recorded, ih]

/-- Mirroring offers every chunk once, in order, and finishes once, behind the last. -/
theorem mirror_recorded (sink : Sink σ) (chunks : List Chunk) (s : σ) :
    sink.recorded.mirror chunks (s, []) =
      let (faults, s) := sink.mirror chunks s
      (faults, s, chunks.map .offered ++ [.finished]) := by
  simp only [mirror_eq, offerAll_recorded, List.nil_append]
  rfl

end Sink

/-! ### Commands that are attended to -/

/-- What attending to a command comes to, by what its pumps read. -/
theorem attend_eq (command : String) (sink? : Option (Sink σ)) (s : σ) (reads : Stream → List Read)
    (wait : Except String ExitStatus) (schedule : List Stream) :
    attend command sink? s reads wait schedule =
      let (chunks, pumps) := Reading.readOn (fun stream => .reading (reads stream)) schedule
      match pumps .out, pumps .err with
      | .returned out, .returned err =>
        some (({ pumps, receiver := s : Reading σ }.received sink? chunks).conclude sink? command
          out err wait)
      | _, _ => none := by
  unfold attend
  rw [Reading.foldl_turn]
  rfl

/-- The reading of these chunks, concluded, is what is seen of the command. -/
theorem Reading.conclude_received (pumps : Stream → Pump) (sink? : Option (Sink σ)) (s : σ)
    (chunks : List Chunk) (command : String) (status : ExitStatus) :
    ({ pumps, receiver := s : Reading σ }.received sink? chunks).conclude sink? command (.ok ())
      (.ok ()) (.ok status) = Transcript.conclude ⟨chunks, status⟩ command sink? s := by
  cases sink? with
  | none => simp [conclude, received, offered, Transcript.conclude, Transcript.result,
      Transcript.captured]
  | some sink => simp [conclude, received, offered, noted_eq, Sink.mirror_eq, Transcript.conclude,
      Transcript.result, Transcript.captured]

/-- The result of a command, by how it ends. -/
theorem Transcript.result_eq (chunks : List Chunk) (status : ExitStatus) (command : String) :
    Transcript.result ⟨chunks, status⟩ command =
      let text := Text.Utf8.decodeLossy (chunks.flatMap (·.bytes))
      match status with
      | .exited 0 => .ok text
      | .exited code => .error (.commandFailed command (some code) text)
      | .signalled => .error (.commandFailed command none text) := by
  match status with
  | .exited 0 => rfl
  | .exited (code + 1) => simp [result, captured, ExitStatus.code?]
  | .signalled => simp [result, captured, ExitStatus.code?]

section

variable {pieces : Stream → List Text.Bytes} {schedule : List Stream}
  (hpieces : ∀ stream, ∀ piece ∈ pieces stream, piece ≠ [])
  (hturns : ∀ stream, (pieces stream).length < schedule.count stream)

include hpieces hturns

/-- If every pump has turns enough, each stream is read to its end, piece by piece. -/
theorem Reading.readOn_pieces :
    let (chunks, pumps) := readOn (fun stream => .reading ((pieces stream).map .ok)) schedule
    ∀ stream, piecesOf chunks stream = pieces stream ∧ pumps stream = .returned (.ok ()) := by
  intro stream
  have hstream := readOn_stream (fun stream => .reading ((pieces stream).map .ok)) schedule stream
  dsimp only at hstream
  rw [Pump.turns_reading (hpieces stream) (hturns stream)] at hstream
  exact Prod.mk.inj hstream

theorem attend_eq_conclude (command : String) (sink? : Option (Sink σ)) (s : σ)
    (status : ExitStatus) :
    attend command sink? s (fun stream => (pieces stream).map .ok) (.ok status) schedule =
      some (Transcript.conclude
        ⟨(Reading.readOn (fun stream => .reading ((pieces stream).map .ok)) schedule).1, status⟩
        command sink? s) := by
  have hpumps := fun stream => (Reading.readOn_pieces hpieces hturns stream).2
  rw [attend_eq]
  dsimp only
  rw [hpumps .out, hpumps .err]
  exact congrArg some (Reading.conclude_received _ sink? s _ command status)

end

/-! ### Every order is that of a schedule -/

namespace Reading

theorem readOn_append (pumps : Stream → Pump) (schedule schedule' : List Stream) :
    readOn pumps (schedule ++ schedule') =
      let (chunks, pumps) := readOn pumps schedule
      let (chunks', pumps) := readOn pumps schedule'
      (chunks ++ chunks', pumps) := by
  induction schedule generalizing pumps with
  | nil => rfl
  | cons stream schedule ih => simp only [List.cons_append, readOn, ih, List.append_assoc]

/-- Chunks are read in their order, if each pump has its turns when its chunks come. -/
theorem readOn_map_stream {chunks : List Chunk} (h : ∀ chunk ∈ chunks, chunk.bytes ≠ []) :
    readOn (fun stream => .reading ((piecesOf chunks stream).map .ok)) (chunks.map (·.stream)) =
      (chunks, fun _ => .reading []) := by
  induction chunks with
  | nil => rfl
  | cons chunk chunks ih =>
      obtain ⟨hchunk, hchunks⟩ := List.forall_mem_cons.mp h
      have hturn : Pump.turn (.reading ((piecesOf (chunk :: chunks) chunk.stream).map .ok)) =
          (.reading ((piecesOf chunks chunk.stream).map .ok), some chunk.bytes) := by
        simp [piecesOf, Pump.turn, hchunk]
      have hafter : pumpsAfter (fun stream => .reading ((piecesOf (chunk :: chunks) stream).map .ok))
          chunk.stream = fun stream => .reading ((piecesOf chunks stream).map .ok) := by
        funext stream
        by_cases hstream : chunk.stream = stream
        · rw [← hstream, pumpsAfter_self, hturn]
        · rw [pumpsAfter_of_ne _ hstream]
          simp [piecesOf, hstream]
      rw [List.map_cons, readOn, hafter, ih hchunks, chunksOf, hturn]
      rfl

/-- Every order of chunks is that of a schedule by which both streams are read to their end. -/
theorem exists_schedule {chunks : List Chunk} (h : ∀ chunk ∈ chunks, chunk.bytes ≠ []) :
    ∃ schedule, (∀ stream, (piecesOf chunks stream).length < schedule.count stream) ∧
      (readOn (fun stream => .reading ((piecesOf chunks stream).map .ok)) schedule).1 = chunks := by
  refine ⟨chunks.map (·.stream) ++ [.out, .err], fun stream => ?_, ?_⟩
  · have hcount : (piecesOf chunks stream).length = (chunks.map (·.stream)).count stream := by
      rw [piecesOf, List.length_map, List.count, List.countP_map, List.countP_eq_length_filter]
      rfl
    rw [List.count_append, hcount]
    cases stream <;> simp
  · rw [readOn_append, readOn_map_stream h]
    simp [readOn, chunksOf, pumpsAfter, Pump.turn]

end Reading

/-! ### The result and the mirror -/

open Reading in
/-- **The result of a command does not depend on what its output is mirrored to.**

* Whatever the reads and the waiting come to, and whichever pump has its turns when, the result with
  a sink is that without one.
* If no read fails and every pump has turns enough to read its stream to the end, chunks have been
  read, in some order, that are the pieces of either stream in theirs. The result is their text, put
  together before it is decoded, if the command ends well, and else a fault that carries it. A sink
  is offered each of these chunks once, in this order, and behind the last it is finished once,
  whatever it answers.
* And chunks can be read in every order. -/
theorem attend_whatever_mirror (command : String) :
    (∀ {σ : Type} (sink : Sink σ) (s : σ) (reads : Stream → List Read) wait schedule,
      (attend command (some sink) s reads wait schedule).map (·.1) =
        (attend command (none : Option (Sink Unit)) () reads wait schedule).map (·.1)) ∧
    (∀ (pieces : Stream → List Text.Bytes) (schedule : List Stream),
      (∀ stream, ∀ piece ∈ pieces stream, piece ≠ []) →
      (∀ stream, (pieces stream).length < schedule.count stream) →
      let reads : Stream → List Read := fun stream => (pieces stream).map .ok
      ∃ chunks : List Chunk, (∀ stream, piecesOf chunks stream = pieces stream) ∧
        ∀ status,
          let text := Text.Utf8.decodeLossy (chunks.flatMap (·.bytes))
          let result : Except Fault String :=
            match status with
            | .exited 0 => .ok text
            | .exited code => .error (.commandFailed command (some code) text)
            | .signalled => .error (.commandFailed command none text)
          Transcript.result ⟨chunks, status⟩ command = result ∧
          attend command (none : Option (Sink Unit)) () reads (.ok status) schedule =
            some (result, [], ()) ∧
          ∀ {σ : Type} (sink : Sink σ) (s : σ),
            let mirrored := sink.mirror chunks s
            attend command (some sink) s reads (.ok status) schedule = some (result, mirrored) ∧
            attend command (some sink.recorded) (s, []) reads (.ok status) schedule =
              some (result, mirrored.1, mirrored.2, chunks.map .offered ++ [.finished])) ∧
    ∀ chunks : List Chunk, (∀ chunk ∈ chunks, chunk.bytes ≠ []) →
      ∃ schedule, (∀ stream, (piecesOf chunks stream).length < schedule.count stream) ∧
        ∀ {σ : Type} (sink : Sink σ) (s : σ) status,
          attend command (some sink) s (fun stream => (piecesOf chunks stream).map .ok) (.ok status)
            schedule = some (Transcript.conclude ⟨chunks, status⟩ command (some sink) s) := by
  refine ⟨?_, ?_, ?_⟩
  · intro σ sink s reads wait schedule
    rw [attend_eq, attend_eq]
    dsimp only
    split
    · rw [Option.map_some, Option.map_some, Option.some.injEq]
      refine fst_conclude_eq ?_ command _ _ wait
      rfl
    · rfl
  · intro pieces schedule hpieces hturns reads
    refine ⟨_, fun stream => (readOn_pieces hpieces hturns stream).1, fun status => ?_⟩
    intro text result
    have hresult := Transcript.result_eq
      (readOn (fun stream => .reading (reads stream)) schedule).1 status command
    refine ⟨hresult, ?_, fun sink s => ?_⟩
    · rw [attend_eq_conclude hpieces hturns, Transcript.conclude, hresult]
    · intro mirrored
      refine ⟨?_, ?_⟩
      · rw [attend_eq_conclude hpieces hturns, Transcript.conclude, hresult]
      · rw [attend_eq_conclude hpieces hturns, Transcript.conclude, hresult, Sink.mirror_recorded]
  · intro chunks hchunks
    obtain ⟨schedule, hturns, hread⟩ := exists_schedule hchunks
    refine ⟨schedule, hturns, fun sink s status => ?_⟩
    have hpieces : ∀ stream, ∀ piece ∈ piecesOf chunks stream, piece ≠ [] := by
      intro stream piece hpiece
      obtain ⟨chunk, hchunk, rfl⟩ := List.mem_map.mp hpiece
      exact hchunks chunk (List.mem_filter.mp hchunk).1
    rw [attend_eq_conclude hpieces hturns, hread]

/-- A sink that refuses every second chunk, and to be finished, changes nothing. The two bytes of a
character are read one after the other, with a turn of the other pump between them that comes too
late to read anything. -/
theorem attend_whatever_mirror_refusing :
    let pieces : Stream → List Text.Bytes
      | .out => [[0xC3], [0xA9, 0x0A]]
      | .err => [[0x21]]
    let reads : Stream → List Read := fun stream => (pieces stream).map .ok
    let schedule : List Stream := [.err, .out, .err, .out, .err, .out]
    let sink : Sink Nat := {
      offer := fun n _ => (if n % 2 = 0 then .error .writeRefused else .ok (), n + 1)
      finish := fun n => (.error .flushRefused, n) }
    let failed : Except Fault String := .error (.commandFailed "make" (some 3) "!\u00e9\n")
    attend "make" (none : Option (Sink Unit)) () reads (.ok (.exited 3)) schedule =
        some (failed, [], ()) ∧
      ∃ faults n deeds, attend "make" (some sink.recorded) (0, []) reads (.ok (.exited 3)) schedule =
        some (failed, faults, n, deeds ++ [.finished]) := by
  intro pieces reads schedule sink failed
  have hsilent : attend "make" (none : Option (Sink Unit)) () reads (.ok (.exited 3)) schedule =
      some (failed, [], ()) := by rfl
  have hpieces : ∀ stream, ∀ piece ∈ pieces stream, piece ≠ [] := by
    intro stream
    cases stream <;> simp [pieces]
  have hturns : ∀ stream, (pieces stream).length < schedule.count stream := by
    intro stream
    cases stream <;> decide
  obtain ⟨chunks, -, hstatus⟩ := (attend_whatever_mirror "make").2.1 pieces schedule hpieces hturns
  obtain ⟨-, hresult, hsink⟩ := hstatus (.exited 3)
  have hfailed := Prod.mk.inj (Option.some.inj (hsilent.symm.trans hresult))
  rw [hfailed.1]
  exact ⟨hresult, _, _, _, (hsink sink 0).2⟩

end Ensemble
