import Ensemble.Fault
import Ensemble.Invocation
import Ensemble.Phase
import Ensemble.Transcript

/-!
# Ensemble.Event

The **trace** of a run: the list of all that happened, in order. It is the one record from which
everything else is read off: the calls made, the commands completed, what was written where.
-/

namespace Ensemble

instance instDecidableEqExcept [DecidableEq ε] [DecidableEq α] : DecidableEq (Except ε α)
  | .ok a, .ok b => decidable_of_iff (a = b) (by simp)
  | .error a, .error b => decidable_of_iff (a = b) (by simp)
  | .ok _, .error _ => isFalse nofun
  | .error _, .ok _ => isFalse nofun

/-- Something that happened. -/
inductive Event
  /-- The settings of the invocation were found and can be used. -/
  | resolved
  /-- The root file was read and accepted. -/
  | loaded (path : Path) (components checks : Nat)
  /-- A command was started. -/
  | started (inv : Invocation)
  /-- A command, and the passing on of its output, came to an end. -/
  | completed (command : String)
  /-- Whoever started a command was told its result. -/
  | answered (inv : Invocation) (result : Except Fault String)
  /-- Some output was shown on this process's own streams. -/
  | printed (chunk : Chunk)
  /-- A labelled line was stored on the console of the run phase. -/
  | labelled (line : Text.Bytes)
  /-- The console refused some output. -/
  | refused (fault : IoFault)
  /-- Every check has passed. -/
  | checksPassed (count : Nat)
  | began (phase : Phase) (component : String)
  | finished (phase : Phase) (component : String)
  /-- A component's worker in the run phase failed. -/
  | workerFailed (component : String) (failure : Failure)
  /-- The failure just told is not the first, which is the one that counts. -/
  | alreadyFailed (component : String)
deriving DecidableEq, Repr

namespace Event

def call? : Event → Option Invocation
  | .started inv => some inv
  | _ => none

def completed? : Event → Option String
  | .completed command => some command
  | _ => none

def answer? : Event → Option (Invocation × Except Fault String)
  | .answered inv result => some (inv, result)
  | _ => none

def line? : Event → Option Text.Bytes
  | .labelled line => some line
  | _ => none

/-- The calls made, in order. -/
def calls (trace : List Event) : List Invocation :=
  trace.filterMap call?

/-- The commands that came to an end, in order. -/
def completions (trace : List Event) : List String :=
  trace.filterMap completed?

/-- The calls that were answered, in the order of the answers, and what they were answered. -/
def answers (trace : List Event) : List (Invocation × Except Fault String) :=
  trace.filterMap answer?

/-- What reached the console of the run phase. -/
def consoleBytes (trace : List Event) : Text.Bytes :=
  (trace.filterMap line?).flatten

/-- What reached a stream of this process; the console of the run phase is its standard output. -/
def streamBytes (stream : Stream) (trace : List Event) : Text.Bytes :=
  trace.flatMap fun
    | .printed chunk => if chunk.stream = stream then chunk.bytes else []
    | .labelled line => if stream = .out then line else []
    | _ => []

@[simp] theorem calls_append (a b : List Event) : calls (a ++ b) = calls a ++ calls b := by
  simp [calls]

@[simp] theorem completions_append (a b : List Event) :
    completions (a ++ b) = completions a ++ completions b := by
  simp [completions]

@[simp] theorem answers_append (a b : List Event) : answers (a ++ b) = answers a ++ answers b := by
  simp [answers]

end Event

end Ensemble
