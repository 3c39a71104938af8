import Ensemble.Binding
import Ensemble.Descriptor
import Ensemble.Machine.Change
import Ensemble.Machine.Furniture
import Ensemble.Machine.Run
import Ensemble.Runner
import Ensemble.Utility.Table

/-!
# Ensemble.World

The **world** that commands are run in: a machine with its file tree, a current directory and an
environment that every command inherits. Texts are kept in it as octets; paths and bindings come from
outside as texts. A command goes on being heard of as a `Client` until it is over.
-/

namespace Ensemble

/-- The tree of a machine that has its programs and nothing else. -/
def Tree.furnished : Tree :=
  Tree.initial.withPrograms Utility.programNames

/-- A command that is running. -/
structure Client where
  /-- The number under which it is heard of. -/
  number : Nat
  /-- The task that was started for it. -/
  task : Nat
  command : String
  /-- Its output so far, the last first. -/
  chunks : List Chunk := []

/-- How often something is heard of commands at most. -/
def greatestPatience : Nat := 1000000000000

/-- What commands find when they are started, and what is running. -/
structure World where
  machine : Machine := .idle .furnished
  /-- The current directory. -/
  directory : Path := ⟨"/"⟩
  /-- The bindings that every command inherits. -/
  environment : List Binding :=
    [⟨"HOME", "/root"⟩, ⟨"PATH", Shell.defaultSearchPath⟩]
  clients : List Client := []
  /-- What has happened and has not been heard yet, by the numbers of the commands. -/
  queue : List (Nat × News) := []
  /-- How often something may still be heard. -/
  patience : Nat := greatestPatience

/-- Does a text hold a character that no path and no process can be given? -/
def holdsNul (s : String) : Bool :=
  s.toList.contains '\x00'

namespace World

/-- The file tree. -/
def tree (w : World) : Tree :=
  w.machine.tree

/-- A path as octets. -/
def octets (p : Path) : String :=
  Text.Octets.ofText p.text

/-- The place of the current directory. -/
def place (w : World) : Route :=
  (w.tree.walk [] (octets w.directory)).toOption.getD []

/-- The place of a path and what is there, or the reason why there is nothing. -/
def find (w : World) (p : Path) : Except String (Route × Node) :=
  if holdsNul p.text then .error "file name contained an unexpected NUL byte"
  else (seen (w.tree.find w.place (octets p))).mapError MachineFault.numbered
where
  /-- Standard input is empty here. -/
  seen : Except MachineFault (Route × Node) → Except MachineFault (Route × Node)
    | .ok (_, ⟨.descriptor 0, _, _, _⟩) => w.tree.find [] "/dev/null"
    | found => found

/-- The text of a file, or the reason why there is none. -/
def readText (w : World) (p : Path) : Except String String := do
  let (_, n) ← w.find p
  let bytes ← (Tree.bytesOf n).mapError MachineFault.numbered
  match Text.Utf8.decode? bytes with
  | some s => return s
  | none => .error IoFault.notUtf8.message

/-- Is there a regular file? -/
def isFile (w : World) (p : Path) : Bool :=
  match w.find p with
  | .ok (_, n) => n.isRegular
  | .error _ => false

/-- The world as a place to load descriptors from. -/
def view (w : World) : FileView where
  read p :=
    (w.readText p).mapError fun reason =>
      .outside ("reading file " ++ Text.quote p.text) [reason]
  isFile := w.isFile
  canonical p :=
    match w.find p with
    | .ok (place, _) => .ok ⟨Text.Octets.toText place.toPath⟩
    | .error e => .error (.outside ("canonicalizing " ++ Text.quote p.text) [e])

end World

end Ensemble
