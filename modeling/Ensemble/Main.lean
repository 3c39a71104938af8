import Ensemble.Machine.Change
import Ensemble.Program

/-!
# Ensemble.Main

The **command line**. The files below the current directory are read into the tree of a machine, the
program is called on that machine, and what it has changed there is written back. So the commands
of the components are those that the machine has, and what they do outside of the current directory
is forgotten.
-/

namespace Ensemble.Main

/-- How deep directories are read. -/
def depth : Nat := 64

/-- Does a file begin like a script that can be run? -/
def isScript (content : Text.Bytes) : Bool :=
  (Text.Utf8.encode "#!").isPrefixOf content

/-- The tree with a file that can be run if it begins like a script. -/
def withFile (tree : Tree) (place : Route) (content : Text.Bytes) : Tree :=
  let tree := tree.addFile place content
  match tree.node? place with
  | some n => if isScript content then tree.update n.number ({ · with mode := 0o755 }) else tree
  | none => tree

/-- Read what is at an entry of a directory into a tree. -/
def load : Nat → Tree → Route → IO.FS.DirEntry → IO Tree
  | 0, tree, _, _ => return tree
  | fuel + 1, tree, dir, entry => do
    let place := dir ++ [Text.Octets.ofText entry.fileName]
    if ← entry.path.isDir then
      let entries ← entry.path.readDir
      entries.foldlM (fun tree entry => load fuel tree place entry) (tree.addDirectory place)
    else if ← entry.path.pathExists then
      return withFile tree place (← IO.FS.readBinFile entry.path).toList
    else return tree

/-- The bindings of the environment that commands inherit. -/
def environment : IO (List Binding) := do
  let names := ["HOME", "LANG", "PATH", "USER"]
  let found ← names.mapM fun name => return (name, ← IO.getEnv name)
  return found.filterMap fun (name, value) => value.map fun value => ⟨name, value⟩

/-- The world that the program is called in. -/
def world : IO World := do
  let directory ← IO.currentDir
  let place := Tree.names (Text.Octets.ofText directory.toString)
  let entries ← directory.readDir
  let tree ← entries.foldlM (fun tree entry => load depth tree place entry)
    (Tree.furnished.addDirectory place)
  return { machine := .idle tree, directory := ⟨directory.toString⟩, environment := ← environment }

/-- Write back what has changed below a directory. What lies deeper is removed first and made
last. -/
def store (before after : Tree) (dir : Route) : IO Unit := do
  let path (s : Seen) : String := Text.Octets.toText (dir.toPath ++ "/" ++ s.path)
  for s in (before.removed after dir).reverse do
    if s.bytes?.isNone then IO.FS.removeDir (path s) else IO.FS.removeFile (path s)
  for s in before.written after dir do
    match s.bytes? with
    | none => IO.FS.createDirAll (path s)
    | some content => IO.FS.writeBinFile (path s) ⟨content.toArray⟩

end Ensemble.Main

open Ensemble in
def main (args : List String) : IO UInt32 := do
  let before ← Main.world
  let run := ProgramRun.ofCall before ("makeup" :: args) (← IO.getEnv "MAKEUP_LOG")
  Main.store before.tree (run.worldAfter before).tree before.place
  let time := toString (← IO.monoMsNow) ++ "ms"
  (← IO.getStdout).write ⟨run.outBytes.toArray⟩
  (← IO.getStderr).write ⟨(run.errBytes time).toArray⟩
  return run.exitCode.toUInt32
