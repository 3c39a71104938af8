import Ensemble.Console
import Ensemble.Text.Lines

/-!
# Ensemble.Labeller

A **labeller** lets several commands share a console. It takes a command's output in whatever
chunks it comes and passes on whole lines only, each behind the command's label:

```text
api         | listening on :8080
worker      | connected to queue
```

What stands after the last line feed is held back (`pending`) until a later chunk ends the line or
the command is over. The lines leave the pending bytes *before* they are written, so when the
console refuses a line, that line and those completed with it are lost, and none is written twice.
-/

namespace Ensemble

/-- The column width of a label, unless the settings say otherwise. -/
def defaultLabelWidth : Nat := 12

/-- The widest column a label can be padded to. -/
def maxLabelWidth : Nat := 65535

/-- A producer's place on a shared console. -/
structure Labeller where
  /-- What every line begins with. -/
  tag : String
  /-- The bytes of a line that has not ended. -/
  pending : Text.Bytes := []
deriving DecidableEq, Repr

namespace Labeller

/-- A label, padded to a width, and a bar. A label that is too long stands as it is. -/
def tagOf (label : String) (width : Nat) : String :=
  label ++ .ofList (List.replicate (width - label.length) ' ') ++ "| "

/-- A new labeller; none can be made for a width beyond `maxLabelWidth`. -/
def new? (label : String) (width : Nat) : Option Labeller :=
  if width ≤ maxLabelWidth then some { tag := tagOf label width } else none

/-- One line as it is written. -/
def lineBytes (tag : String) (line : Text.Bytes) : Text.Bytes :=
  Text.Utf8.encode tag ++ line ++ [Text.lineFeed]

/-- The lines that bytes complete, and what stands after the last of them. -/
def completeLines (bytes : Text.Bytes) : List Text.Bytes × Text.Bytes :=
  let (head, tail) := Text.cutBetween Text.lineFeed bytes
  ((head :: tail).dropLast, (head :: tail).getLast (by simp))

/-- Write lines one by one, up to the first that is refused. -/
def writeLines (tag : String) : List Text.Bytes → Console → Except IoFault Unit × Console
  | [], console => (.ok (), console)
  | line :: lines, console =>
    match console.write (lineBytes tag line) with
    | (.ok (), console) => writeLines tag lines console
    | (.error e, console) => (.error e, console)

/-- Write lines and flush; without a line nothing is flushed either. -/
def passOn (tag : String) (lines : List Text.Bytes) (console : Console) :
    Except IoFault Unit × Console :=
  match lines with
  | [] => (.ok (), console)
  | lines =>
    match writeLines tag lines console with
    | (.ok (), console) => console.flush
    | (.error e, console) => (.error e, console)

/-- Take a chunk: pass on the lines it completes and hold back the rest. The answer is the number
of bytes taken. -/
def write (l : Labeller) (chunk : Text.Bytes) (console : Console) :
    Except IoFault Nat × Labeller × Console :=
  let (lines, rest) := completeLines (l.pending ++ chunk)
  let (result, console) := passOn l.tag lines console
  (result.map fun _ => chunk.length, { l with pending := rest }, console)

/-- The command is over: what was held back is passed on as a last line. -/
def finish (l : Labeller) (console : Console) : Except IoFault Unit × Labeller × Console :=
  let lines := if l.pending = [] then [] else [l.pending]
  let (result, console) := passOn l.tag lines console
  (result, { l with pending := [] }, console)

end Labeller

end Ensemble
