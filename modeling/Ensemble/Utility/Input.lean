import Ensemble.Text.Octets
import Ensemble.Utility.Basic

/-!
# Ensemble.Utility.Input

**Reading**: whole files, and inputs that are read block by block and used line by line. A dash stands
for standard input.
-/

namespace Ensemble.Utility

/-- Nothing is read in more blocks than this. -/
def readLimit : Nat := 10000000

/-- Open a file for reading; a dash is standard input. -/
def openInput (path : String) : Tool (Except MachineFault Nat) :=
  if path = "-" then return .ok 0 else ask (.openFile path { reads := true })

/-- Close a file, if it is not standard input. -/
def closeInput (fd : Nat) : Tool Unit := do
  if fd != 0 then
    let _ ← ask (.close fd)

/-- The size of a block of input. -/
def inputBlock : Nat := 65536

/-- The rest of what is read from a descriptor. -/
def readRest (fd : Nat) : Nat → List String → Tool (Except MachineFault String)
  | 0, pieces => return .ok (String.join pieces.reverse)
  | fuel + 1, pieces => do
    match ← ask (.read fd inputBlock) with
    | .error e => return .error e
    | .ok "" => return .ok (String.join pieces.reverse)
    | .ok piece => readRest fd fuel (piece :: pieces)

/-- The content of a file; what went wrong may have done so before anything was read. -/
inductive Content
  | text (s : String)
  | notOpened (e : MachineFault)
  | notRead (e : MachineFault)

/-- Read a file. -/
def contentOf (path : String) : Tool Content := do
  match ← openInput path with
  | .error e => return .notOpened e
  | .ok fd => do
    let result ← readRest fd readLimit []
    closeInput fd
    match result with
    | .ok s => return .text s
    | .error e => return .notRead e

/-- An input that is used line by line: what has been read of it and not used yet. -/
structure Feed where
  fd : Nat
  held : List Char := []
  atEnd : Bool := false

namespace Feed

/-- The next line with the character that ends it, which may be missing at the end; none if there is
no line. -/
def line? (stop : Char) : Nat → Feed → Tool (Except MachineFault (Option (List Char) × Feed))
  | 0, f => return .ok (none, f)
  | fuel + 1, f => do
    match Text.splitFirst stop f.held with
    | some (line, rest) => return .ok (some (line ++ [stop]), { f with held := rest })
    | none =>
      if f.atEnd then
        return .ok (if f.held.isEmpty then none else some f.held, { f with held := [] })
      else
        match ← ask (.read f.fd blockSize) with
        | .error e => return .error e
        | .ok "" => line? stop fuel { f with atEnd := true }
        | .ok piece => line? stop fuel { f with held := f.held ++ piece.toList }

/-- Give back what has been read and not used, if that is possible. -/
def giveBack (f : Feed) : Tool Unit := do
  if !f.held.isEmpty then
    let _ ← ask (.seek f.fd (-(f.held.length : Int)) .here)

end Feed

/-- Go over pieces of an input as they are read. A piece ends where a line does, except at the end of
the input. A step that wants no more says so. -/
def foldPieces (fd : Nat) (stop : Char) (step : σ → List (List Char) → Tool (σ × Bool)) :
    Nat → List Char → σ → Tool (Except MachineFault σ)
  | 0, _, s => return .ok s
  | fuel + 1, held, s => do
    match ← ask (.read fd blockSize) with
    | .error e => return .error e
    | .ok "" => do
      if held.isEmpty then return .ok s
      return .ok (← step s [held]).1
    | .ok piece => do
      let pieces := Text.cutAfter stop (held ++ piece.toList)
      let (lines, held) :=
        match pieces.getLast? with
        | some last => if last.getLast? == some stop then (pieces, []) else (pieces.dropLast, last)
        | none => ([], [])
      if lines.isEmpty then foldPieces fd stop step fuel held s
      else
        match ← step s lines with
        | (s, true) => return .ok s
        | (s, false) => foldPieces fd stop step fuel held s

/-- A line without the character that ends it. -/
def bare (stop : Char) (line : List Char) : List Char :=
  if line.getLast? == some stop then line.dropLast else line

/-- The lines of a text, without their line feeds. -/
def linesOf (text : String) : List String :=
  (Text.cutAfter '\n' text.toList).map fun line => .ofList (bare '\n' line)

/-- Do something with each of these files; the status of the worst. Without any, standard input is
read. -/
def forFiles (operands : List String) (act : String → Tool Nat) : Tool Nat :=
  forEach (if operands.isEmpty then ["-"] else operands) act

end Ensemble.Utility
