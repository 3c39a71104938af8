import Ensemble.Labeller

/-!
# Ensemble.Transcript

A **transcript** is what is seen of a command that was run: the chunks read from its two output
streams, in the order in which they were read, and how it ended. From these follow the captured
text and the result of the command. Chunks can be mirrored to a `Sink` on the way; the result does
not depend on it, for a sink that refuses is only complained about.
-/

namespace Ensemble

/-- The output streams of a process. -/
inductive Stream
  | out
  | err
deriving DecidableEq, Repr

/-- Some bytes, read at once from one of the streams. -/
structure Chunk where
  stream : Stream
  bytes : Text.Bytes
deriving DecidableEq, Repr

/-- How a process ends. -/
inductive ExitStatus
  | exited (code : Nat)
  | signalled
deriving DecidableEq, Repr

namespace ExitStatus

/-- The exit code; a process ended by a signal has none. -/
def code? : ExitStatus → Option Int
  | .exited code => some code
  | .signalled => none

end ExitStatus

/-- What is seen of a command that was run. -/
structure Transcript where
  /-- What was read of its output, in the order in which it was read. -/
  chunks : List Chunk
  status : ExitStatus
deriving DecidableEq, Repr

namespace Transcript

/-- The bytes of both streams, in the order in which they were read. -/
def captured (t : Transcript) : Text.Bytes :=
  t.chunks.flatMap (·.bytes)

/-- The bytes of one stream, in the order in which they were read. -/
def streamBytes (t : Transcript) (stream : Stream) : Text.Bytes :=
  (t.chunks.filter (·.stream = stream)).flatMap (·.bytes)

/-- The result of a command: its output if it ended well, and else a fault that carries it. -/
def result (t : Transcript) (command : String) : Except Fault String :=
  let output := Text.Utf8.decodeLossy t.captured
  if t.status = .exited 0 then .ok output
  else .error (.commandFailed command t.status.code? output)

end Transcript

/-! ### Mirroring -/

/-- A receiver of chunks, whose state is `σ`. -/
structure Sink (σ : Type) where
  /-- Take one chunk. -/
  offer : σ → Chunk → Except IoFault Unit × σ
  /-- The process has ended and both its streams are read to the end. -/
  finish : σ → Except IoFault Unit × σ

namespace Sink

/-- Lines go to a console behind a label, whichever stream they come from. -/
def labelled : Sink (Labeller × Console) where
  offer := fun (labeller, console) chunk =>
    let (result, labeller, console) := labeller.write chunk.bytes console
    (result.map fun _ => (), labeller, console)
  finish := fun (labeller, console) =>
    let (result, labeller, console) := labeller.finish console
    (result, labeller, console)

/-- Offer chunks one by one. A refusal is noted and the next chunk offered all the same. -/
def offerAll (sink : Sink σ) : List Chunk → σ → List IoFault × σ
  | [], s => ([], s)
  | chunk :: chunks, s =>
    let (result, s) := sink.offer s chunk
    let (faults, s) := sink.offerAll chunks s
    match result with
    | .ok () => (faults, s)
    | .error e => (e :: faults, s)

/-- Offer all chunks, then finish. The faults are those of the refusals, in order. -/
def mirror (sink : Sink σ) (chunks : List Chunk) (s : σ) : List IoFault × σ :=
  let (faults, s) := sink.offerAll chunks s
  let (result, s) := sink.finish s
  match result with
  | .ok () => (faults, s)
  | .error e => (faults ++ [e], s)

end Sink

namespace Transcript

/-- A command that was run to its end: its result, the refusals of the sink, and the sink's state.
Without a sink the output is only captured. -/
def conclude (t : Transcript) (command : String) (sink : Option (Sink σ)) (s : σ) :
    Except Fault String × List IoFault × σ :=
  let (faults, s) :=
    match sink with
    | some sink => sink.mirror t.chunks s
    | none => ([], s)
  (t.result command, faults, s)

end Transcript

end Ensemble
