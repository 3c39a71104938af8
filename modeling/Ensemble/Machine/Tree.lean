import Ensemble.Machine.Fault
import Ensemble.Text.Lines
import Ensemble.Text.Octets

/-!
# Ensemble.Machine.Tree

The **file tree** of a machine: files, directories and links by their `Route`, the names that lead
to them from the root. Names and link targets are octets. A path is walked name by name from a
directory (`Tree.walk`); a link on the way is walked in its place, so `..` behind a link leads out
of where the link points, unlike in the lexical normal form.

A node has a number. Two places with one number are two names of one file: what is written under
one name is read under the other. A file that has lost its last name is kept as long as the tree
is, because a channel may still lead to it.
-/

namespace Ensemble

/-- The names from the root to a place. The root has the empty route. -/
abbrev Route := List String

/-- A file that holds nothing of its own. -/
inductive Device
  /-- Always empty, whatever is written to it. -/
  | null
  /-- Zeros without end. -/
  | zero
  /-- Zeros without end, and no room for anything. -/
  | full
  /-- A terminal, of which there is none. -/
  | terminal
deriving DecidableEq, Repr

/-- What a node is. -/
inductive Body
  | file (content : Text.Bytes)
  | directory
  | link (target : String)
  | device (d : Device)
  /-- What leads to a descriptor of the process that asks. -/
  | descriptor (fd : Nat)
  /-- What leads to the directory that the process which asks is in. -/
  | here
  /-- A program of the machine's own. -/
  | program (name : String)
  /-- A queue with a name. -/
  | queue
deriving DecidableEq, Repr

/-- What is at a place. Times are microseconds. -/
structure Node where
  body : Body
  mode : Nat
  time : Int := 0
  number : Nat := 0
deriving DecidableEq, Repr

namespace Node

def isDirectory (n : Node) : Bool :=
  n.body == .directory

def isLink (n : Node) : Bool :=
  match n.body with
  | .link _ => true
  | _ => false

/-- Is this a file that holds bytes, or a program? -/
def isRegular (n : Node) : Bool :=
  match n.body with
  | .file _ | .program _ => true
  | _ => false

/-- May the node be run, or searched, by someone? -/
def isExecutable (n : Node) : Bool :=
  n.mode / 64 % 2 == 1 || n.mode / 8 % 2 == 1 || n.mode % 2 == 1

end Node

/-- Files, directories and links. The root is not listed. -/
structure Tree where
  nodes : List (Route × Node)
  /-- The number of the next new node. -/
  next : Nat := 2
  /-- The time at which nodes are made and changed now. -/
  now : Int := 0
  /-- Files without a name. -/
  lost : List Node := []
deriving DecidableEq, Repr

namespace Route

/-- The path of a place. -/
def toPath (r : Route) : String :=
  if r = [] then "/" else String.join (r.map ("/" ++ ·))

end Route

namespace Tree

/-! ### Places -/

/-- The root. -/
def root : Node :=
  { body := .directory, mode := 0o755, number := 1 }

/-- What is at a place. -/
def node? (t : Tree) (r : Route) : Option Node :=
  if r = [] then some root else t.nodes.lookup r

def isDirectory (t : Tree) (r : Route) : Bool :=
  (t.node? r).any (·.isDirectory)

/-- A node by its number, whether it has a name or not. -/
def numbered? (t : Tree) (number : Nat) : Option Node :=
  match t.nodes.find? fun (_, n) => n.number == number with
  | some (_, n) => some n
  | none => t.lost.find? fun n => n.number == number

/-- The number of names that a node has. A directory is also named by itself and by each directory
in it. -/
def nameCount (t : Tree) (r : Route) (n : Node) : Nat :=
  if n.isDirectory then
    2 + (t.nodes.filter fun (place, m) => m.isDirectory && place != [] && place.dropLast == r).length
  else (t.nodes.filter fun (_, m) => m.number == n.number).length

/-- The names in a directory, in order. -/
def namesIn (t : Tree) (r : Route) : List String :=
  let names := t.nodes.filterMap fun (place, _) =>
    match place.getLast? with
    | some name => if place.dropLast = r then some name else none
    | none => none
  names.mergeSort fun a b => decide (a ≤ b)

/-- All places below a directory. -/
def below (t : Tree) (r : Route) : List (Route × Node) :=
  t.nodes.filter fun (place, _) => r.isPrefixOf place && place != r

/-- The tree, after what is in a directory has changed. -/
def touchDirectory (t : Tree) (r : Route) : Tree :=
  { t with nodes := t.nodes.map fun (place, n) =>
      if place = r then (place, { n with time := t.now }) else (place, n) }

/-- Put a node at a place, over whatever is there. -/
def put (t : Tree) (r : Route) (n : Node) : Tree :=
  if r = [] then t
  else if (t.nodes.lookup r).isSome then
    { t with nodes := t.nodes.map fun (place, old) => if place = r then (place, n) else (place, old) }
  else touchDirectory { t with nodes := t.nodes ++ [(r, n)] } r.dropLast

/-- Put something new at a place. -/
def add (t : Tree) (r : Route) (mode : Nat) (body : Body) : Tree :=
  { t.put r { body, mode, time := t.now, number := t.next } with next := t.next + 1 }

/-- Change a node under all its names. -/
def update (t : Tree) (number : Nat) (f : Node → Node) : Tree :=
  { t with
    nodes := t.nodes.map fun (place, n) => if n.number = number then (place, f n) else (place, n)
    lost := t.lost.map fun n => if n.number = number then f n else n }

/-- Take away a place and all below it. -/
def remove (t : Tree) (r : Route) : Tree :=
  let (gone, nodes) := t.nodes.partition fun (place, _) => r.isPrefixOf place
  let lost := gone.filterMap fun (_, n) =>
    match n.body with
    | .file _ => if nodes.any fun (_, m) => m.number == n.number then none else some n
    | _ => none
  touchDirectory { t with nodes, lost := lost ++ t.lost } r.dropLast

/-- Move a place with all below it to another, over whatever is there. -/
def move (t : Tree) (source target : Route) : Tree :=
  let cleared := if (t.nodes.lookup target).isSome then t.remove target else t
  let nodes := cleared.nodes.map fun (place, n) =>
    if source.isPrefixOf place then (target ++ place.drop source.length, n) else (place, n)
  touchDirectory (touchDirectory { cleared with nodes } source.dropLast) target.dropLast

/-- The place of a node with a name. -/
def placeOf? (t : Tree) (number : Nat) : Option Route :=
  if number = root.number then some []
  else (t.nodes.find? fun (_, n) => n.number == number).map (·.1)

/-! ### Paths -/

/-- The names of a path, in order. -/
def names (path : String) : List String :=
  let (head, tail) := Text.cutBetween '/' path.toList
  ((head :: tail).filter (· ≠ [])).map String.ofList

/-- The greatest length of a name. -/
def nameLimit : Nat := 255

/-- The length that a path does not reach. -/
def pathLimit : Nat := 4096

/-- The number of links that may be walked on one way. -/
def linkLimit : Nat := 40

/-- Walk names from a directory, for someone who is in one. The last name need not exist; if `follow` is
off, it is not followed if it is a link. `links` counts the links that may still be walked. -/
def walkNames (t : Tree) (follow : Bool) (own : Route) :
    Nat → Nat → Route → List String → Except MachineFault Route
  | _, _, dir, [] => .ok dir
  | 0, _, _, _ => .error .tooManyLinks
  | fuel + 1, links, dir, name :: rest =>
    if !t.isDirectory dir then
      .error (if (t.node? dir).isSome then .notDirectory else .notFound)
    else if name = "." then walkNames t follow own fuel links dir rest
    else if name = ".." then walkNames t follow own fuel links dir.dropLast rest
    else if nameLimit < name.length then .error .tooLong
    else
      let place := dir ++ [name]
      match t.node? place with
      | some ⟨.link target, _, _, _⟩ =>
        if rest = [] ∧ !follow then .ok place
        else if links = 0 then .error .tooManyLinks
        else
          let from' := if target.toList.head? = some '/' then [] else dir
          if target = "" then .error .notFound
          else walkNames t follow own fuel (links - 1) from' (names target ++ rest)
      | some ⟨.here, _, _, _⟩ =>
        if rest = [] ∧ !follow then .ok place else walkNames t follow own fuel links own rest
      | some _ => walkNames t follow own fuel links place rest
      | none => if rest = [] then .ok place else .error .notFound

/-- The number of steps that a walk can take: as many as a path has, for each of the links. -/
def walkLimit : Nat := pathLimit * (linkLimit + 2)

/-- Walk a path from a directory. If `follow` is off, a link at its end is not followed, unless a
slash stands behind it. -/
def walkTo (t : Tree) (follow : Bool) (dir : Route) (path : String) : Except MachineFault Route := do
  if path = "" then .error .notFound
  if pathLimit ≤ path.length then .error .tooLong
  let start := if path.toList.head? = some '/' then [] else dir
  let slashed := path.toList.getLast? = some '/'
  let place ← t.walkNames (follow || slashed) dir walkLimit linkLimit start (names path)
  if slashed && (t.node? place).any (!·.isDirectory) then .error .notDirectory
  else return place

/-- Walk a path from a directory, through all links. -/
def walk (t : Tree) (dir : Route) (path : String) : Except MachineFault Route :=
  t.walkTo true dir path

/-- The place of a path at which there is something. -/
def findTo (t : Tree) (follow : Bool) (dir : Route) (path : String) :
    Except MachineFault (Route × Node) := do
  let place ← t.walkTo follow dir path
  match t.node? place with
  | some n => return (place, n)
  | none => .error .notFound

/-- The place of a path at which there is something, through all links. -/
def find (t : Tree) (dir : Route) (path : String) : Except MachineFault (Route × Node) :=
  t.findTo true dir path

/-- The same, but of a link at the end of the path it is the link itself. -/
def findLink (t : Tree) (dir : Route) (path : String) : Except MachineFault (Route × Node) :=
  t.findTo false dir path

/-! ### Files and directories -/

/-- The bytes of a node. -/
def bytesOf (n : Node) : Except MachineFault Text.Bytes :=
  match n.body with
  | .file content => .ok content
  | .directory => .error .isDirectory
  | .link _ => .error .tooManyLinks
  | .device .terminal => .error .noDevice
  | .device _ | .descriptor _ | .here | .program _ | .queue => .ok []

/-- The bytes of a file. -/
def read (t : Tree) (dir : Route) (path : String) : Except MachineFault Text.Bytes := do
  bytesOf (← t.find dir path).2

/-- The place of a file that is about to be written. -/
def placeToWrite (t : Tree) (dir : Route) (path : String) : Except MachineFault Route := do
  if pathLimit ≤ path.length then .error .tooLong
  let slashed := path.toList.getLast? = some '/'
  let place ← t.walk dir (if slashed then path ++ "." else path) |>.mapError fun e =>
    if slashed && e == .notFound then .isDirectory else e
  if t.isDirectory place then .error .isDirectory
  else
    match t.node? place with
    | some ⟨.device .terminal, _, _, _⟩ => .error .noDevice
    | _ => return place

/-- Give a file its bytes; a new one is made with the mode. What holds no bytes stays as it is. -/
def write (t : Tree) (r : Route) (mode : Nat) (content : Text.Bytes) : Tree :=
  match t.node? r with
  | none => t.add r mode (.file content)
  | some n =>
    match n.body with
    | .file _ => t.update n.number fun n => { n with body := .file content, time := t.now }
    | _ => t

/-- Make one directory. -/
def makeDirectory (t : Tree) (mode : Nat) (dir : Route) (path : String) :
    Except MachineFault Tree := do
  let bare := String.ofList (path.toList.reverse.dropWhile (· == '/')).reverse
  let place ← t.walkTo false dir (if bare = "" then path else bare)
  if (t.node? place).isSome then .error .present
  else return t.add place mode .directory

/-- A file with the directories that lead to it. -/
def addFile (t : Tree) (r : Route) (content : Text.Bytes) : Tree :=
  let t := (List.range r.length).foldl (fun t n =>
    let place := r.take n
    if (t.node? place).isSome then t else t.add place 0o755 .directory) t
  t.write r 0o644 content

/-- A directory with those that lead to it. -/
def addDirectory (t : Tree) (r : Route) : Tree :=
  (List.range (r.length + 1)).foldl (fun t n =>
    let place := r.take n
    if (t.node? place).isSome then t else t.add place 0o755 .directory) t

/-- The tree with programs where commands are looked for. -/
def withPrograms (t : Tree) (names : List String) : Tree :=
  names.foldl (fun t name => t.add ["usr", "bin", name] 0o755 (.program name)) t

end Tree

end Ensemble
