import Ensemble.Transcript

/-!
# Ensemble.Reading

**How the output of a command is read.** A command writes to two streams, and each has a *pump* that
reads it to its end. What a pump reads is captured, in one place for both, and offered to a sink if
there is one. Which pump reads next is not for the program to say: here a *schedule* says it, turn by
turn.

Only when both pumps have returned and the command is over, the sink is told to finish and what has
been captured is decoded, all at once. If no read fails, what is seen of the command is then the
`Transcript` of the chunks in the order of their reads.
-/

namespace Ensemble

/-- What is read from a stream at once, or the reason why the read fails. A read without bytes is the
end of the stream. -/
abbrev Read := Except String Text.Bytes

/-- One of the two loops that read. -/
inductive Pump
  /-- It still reads. Behind the last of its reads, the stream is at its end. -/
  | reading (reads : List Read)
  | returned (result : Except String Unit)

/-- One turn of a pump: the pump after it, and what it has read. -/
def Pump.turn : Pump → Pump × Option Text.Bytes
  | .reading [] => (.returned (.ok ()), none)
  | .reading (.error reason :: _) => (.returned (.error reason), none)
  | .reading (.ok bytes :: reads) =>
    if bytes = [] then (.returned (.ok ()), none) else (.reading reads, some bytes)
  | .returned result => (.returned result, none)

/-- Where the reading stands, with a sink whose state is `σ`. -/
structure Reading (σ : Type) where
  pumps : Stream → Pump
  /-- The bytes of both streams, in the order in which they were read. -/
  captured : Text.Bytes := []
  /-- What the sink has refused so far. -/
  refusals : List IoFault := []
  receiver : σ

namespace Reading

variable (sink? : Option (Sink σ))

/-- Nothing is read yet. -/
def start (reads : Stream → List Read) (receiver : σ) : Reading σ :=
  { pumps := fun stream => .reading (reads stream), receiver }

/-- Take a note of the sink's answer. -/
def noted (r : Reading σ) : Except IoFault Unit × σ → Reading σ
  | (.ok (), receiver) => { r with receiver }
  | (.error fault, receiver) => { r with receiver, refusals := r.refusals ++ [fault] }

/-- Capture a chunk and offer it to the sink. A refusal does not end the reading, for the command
would wait for a reader. -/
def take (r : Reading σ) (chunk : Chunk) : Reading σ :=
  let r := { r with captured := r.captured ++ chunk.bytes }
  match sink? with
  | none => r
  | some sink => r.noted (sink.offer r.receiver chunk)

/-- The pump of a stream has its turn. -/
def turn (r : Reading σ) (stream : Stream) : Reading σ :=
  let (pump, bytes?) := (r.pumps stream).turn
  let r := { r with pumps := fun s => if s = stream then pump else r.pumps s }
  match bytes? with
  | none => r
  | some bytes => r.take sink? ⟨stream, bytes⟩

/-- The pumps have returned and the command has been waited for: the result of the command, the
refusals of the sink and its state. -/
def conclude (r : Reading σ) (command : String) (out err : Except String Unit)
    (wait : Except String ExitStatus) : Except Fault String × List IoFault × σ :=
  let broken (doing reason : String) : Except Fault String × List IoFault × σ :=
    (.error (.outside (doing ++ " `" ++ command ++ "`") [reason]), r.refusals, r.receiver)
  match out, err, wait with
  | .error reason, _, _ => broken "reading stdout of" reason
  | .ok (), .error reason, _ => broken "reading stderr of" reason
  | .ok (), .ok (), .error reason => broken "waiting for" reason
  | .ok (), .ok (), .ok status =>
    let r :=
      match sink? with
      | none => r
      | some sink => r.noted (sink.finish r.receiver)
    let output := Text.Utf8.decodeLossy r.captured
    let result :=
      if status = .exited 0 then .ok output
      else .error (.commandFailed command status.code? output)
    (result, r.refusals, r.receiver)

end Reading

/-- Attend to a command that has been started, until it is over. There is no result if the schedule
ends while a pump still reads. -/
def attend (command : String) (sink? : Option (Sink σ)) (receiver : σ)
    (reads : Stream → List Read) (wait : Except String ExitStatus) (schedule : List Stream) :
    Option (Except Fault String × List IoFault × σ) :=
  let r := schedule.foldl (Reading.turn sink?) (.start reads receiver)
  match r.pumps .out, r.pumps .err with
  | .returned out, .returned err => some (r.conclude sink? command out err wait)
  | _, _ => none

end Ensemble
