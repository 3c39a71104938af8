import Ensemble.Machine.Call
import Ensemble.Text.Lines

/-!
# Ensemble.Machine.Program

**Programs**: what a process does that is started with arguments and an environment. A process goes
on as another program by a `Launch`, which comes back only if that is not possible. A file that is
no program can name the one that reads it in its first line, behind `#!`.

`launchAt` ties the knot between programs and what starts them: so many programs can follow one
another in one process.
-/

namespace Ensemble

/-- Goes on as the program at a path, with arguments, of which the first is the program's name, and
with bindings. It comes back only with the reason why that is not possible. -/
abbrev Launch := String → List String → List String → Doing MachineFault

/-- What a program does with its arguments and bindings; the answer is its status. -/
abbrev Program := Launch → List String → List String → Doing Nat

namespace Launch

/-- The length that no argument or binding reaches. -/
def textLimit : Nat := 131072

/-- The room that all arguments and bindings have together. -/
def room : Nat := 2097152 - 4096

/-- Is there room for arguments and bindings? -/
def fits (path : String) (args bindings : List String) : Bool :=
  let texts := args ++ bindings
  texts.all (fun s => s.length < textLimit) &&
    texts.foldl (fun n s => n + s.length + 1 + 8) (path.length + 1) < room

/-- How many files may be read by one another. -/
def readerLimit : Nat := 5

/-- The program that reads a file which begins like this, and the argument that it gets. -/
def reader? (head : String) : Option (String × Option String) :=
  let isBlank (c : Char) : Bool := c == ' ' || c == '\t'
  match head.toList with
  | '#' :: '!' :: cs =>
    let line := (cs.takeWhile fun c => c != '\n' && c != '\x00').dropWhile isBlank
    let line := (line.reverse.dropWhile isBlank).reverse
    let path := line.takeWhile (!isBlank ·)
    let argument := (line.drop path.length).dropWhile isBlank
    if path.isEmpty then none
    else some (.ofList path, if argument.isEmpty then none else some (.ofList argument))
  | _ => none

/-- Go on as the program at a path, given what programs do. -/
def start (run : String → Option (List String → List String → Doing Nat)) :
    Nat → String → List String → List String → Doing MachineFault
  | 0, _, _, _ => return .tooManyLinks
  | fuel + 1, path, args, bindings => do
    if !fits path args bindings then return .tooMuch
    match ← Doing.ask (.image path) with
    | .error e => return e
    | .ok (.program name) =>
      match run name with
      | none => return .badFormat
      | some act => do
        Doing.ask .become
        Doing.finish (.exited ((← act args bindings) % 256))
    | .ok (.text head) =>
      match reader? head with
      | none => return .badFormat
      | some (reader, argument) =>
        start run fuel reader ([reader] ++ argument.toList ++ [path] ++ args.drop 1) bindings

end Launch

/-- A launch after which so many programs can follow one another, given what the programs of the
machine's own do. -/
def launchAt (programs : String → Option Program) : Nat → Launch
  | 0 => fun _ _ _ => return .tooMuch
  | n + 1 => Launch.start (fun name => (programs name).map fun p => p (launchAt programs n)) Launch.readerLimit

end Ensemble
