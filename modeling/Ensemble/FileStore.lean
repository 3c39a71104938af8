import Ensemble.Descriptor
import Ensemble.Path

/-!
# Ensemble.FileStore

A **file store**: a small tree of text files kept by normal path, so that every spelling of a path
finds the same entry. Adding a file makes the directories that lead to it, where nothing is there
yet; what has been added by name is replaced only by name.
-/

namespace Ensemble

/-- What a store holds at a path. -/
inductive StoreEntry
  | file (content : String)
  | directory
deriving DecidableEq, Repr

/-- Files and directories by normal path. The first entry for a path counts. -/
structure FileStore where
  entries : List (NormalPath × StoreEntry) := []
deriving Repr

namespace FileStore

/-- The entry at a normal path. -/
def lookup (s : FileStore) (n : NormalPath) : Option StoreEntry :=
  s.entries.lookup n

/-- The entry at a path, by any spelling. -/
def entry? (s : FileStore) (p : Path) : Option StoreEntry :=
  s.lookup p.normal

/-- Put an entry at a normal path, over whatever is there. -/
def put (s : FileStore) (n : NormalPath) (e : StoreEntry) : FileStore :=
  ⟨(n, e) :: s.entries⟩

/-- Put a directory at a normal path where there is nothing. -/
def putIfAbsent (s : FileStore) (n : NormalPath) : FileStore :=
  if (s.lookup n).isSome then s else s.put n .directory

/-- Add a file, and the directories that lead to it. -/
def addFile (s : FileStore) (p : Path) (content : String) : FileStore :=
  (p.normal.ancestors.foldl putIfAbsent s).put p.normal (.file content)

/-- Add a directory. -/
def addDirectory (s : FileStore) (p : Path) : FileStore :=
  s.put p.normal .directory

/-- There is nothing at this path. -/
def notFound (p : Path) : Fault :=
  .outside ("File not found: " ++ Text.quote p.text) []

/-- The text of a file. -/
def read (s : FileStore) (p : Path) : Except Fault String :=
  match s.entry? p with
  | some (.file content) => .ok content
  | some .directory => .error (.outside ("Is a directory: " ++ Text.quote p.text) [])
  | none => .error (notFound p)

def isFile (s : FileStore) (p : Path) : Bool :=
  match s.entry? p with
  | some (.file _) => true
  | _ => false

/-- The normal form of a path at which there is something. -/
def canonical (s : FileStore) (p : Path) : Except Fault Path :=
  match s.entry? p with
  | some _ => .ok p.normalize
  | none => .error (notFound p)

/-- The store as a place to load descriptors from. -/
def view (s : FileStore) : FileView :=
  ⟨s.read, s.isFile, s.canonical⟩

@[simp] theorem lookup_put_self (s : FileStore) (n : NormalPath) (e : StoreEntry) :
    (s.put n e).lookup n = some e := by
  simp [lookup, put]

theorem lookup_put_of_ne (s : FileStore) {n m : NormalPath} (e : StoreEntry) (h : m ≠ n) :
    (s.put n e).lookup m = s.lookup m := by
  have : (m == n) = false := by simpa using h
  simp [lookup, put, List.lookup_cons, this]

end FileStore

end Ensemble
