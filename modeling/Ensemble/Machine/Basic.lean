import Ensemble.Machine.Call
import Ensemble.Machine.Tree
import Ensemble.Transcript

/-!
# Ensemble.Machine.Basic

A **machine** that processes run on: a file tree, a clock, open files, pipes and tasks. A `Task` is a
process with what the machine keeps about it: where its descriptors lead, where it is in the tree,
how it takes signals. Open files are shared: whoever holds the number of one reads on where another
has left off.

What is printed stays with the machine until someone has heard it (`Machine.printed`). Times are
microseconds.
-/

namespace Ensemble

/-- What an open file leads to. -/
inductive Target
  /-- A file or directory, by its number. -/
  | node (number : Nat)
  | device (d : Device)
  /-- An output stream that is heard outside, and the task that was started with it. -/
  | console (owner : Nat) (stream : Stream)
  | pipe (index : Nat)
deriving DecidableEq, Repr

/-- An open file. -/
structure OpenFile where
  target : Target
  reads : Bool
  writes : Bool
  append : Bool := false
  offset : Nat := 0
deriving DecidableEq, Repr

instance : Inhabited OpenFile := ⟨⟨.device .null, true, true, false, 0⟩⟩

/-- What has been written and not yet been read: the pieces that come first, and those behind them,
the last first. -/
structure Pipe where
  front : List String := []
  back : List String := []
  size : Nat := 0
deriving Repr

instance : Inhabited Pipe := ⟨{}⟩

/-- A process, and what the machine keeps about it. -/
structure Task where
  number : Nat
  parent : Nat
  /-- The processes of one group can be sent a signal together. -/
  group : Nat := 0
  process : Process
  /-- When it goes on. -/
  time : Nat
  /-- Does it wait for others? -/
  waiting : Bool := false
  /-- May it open the end of a queue for which it waits? -/
  granted : Bool := false
  stopped : Bool := false
  /-- Descriptors and the open files they lead to. -/
  descriptors : List (Nat × Nat)
  directory : Route
  /-- The permissions that new files do not get. -/
  mask : Nat := 0o022
  /-- What is done on signals, where it is not what is usually done. -/
  responses : List (Nat × Response) := []
  /-- Signals that have come and are not told yet. -/
  noted : List Nat := []
  ended : Option Ending := none

/-- A machine. -/
structure Machine where
  tree : Tree
  /-- The time at which the clock began. -/
  epoch : Int := 0
  clock : Nat := 0
  files : Array OpenFile := #[]
  pipes : Array Pipe := #[]
  /-- The pipes of queues with a name, by the number of the queue. -/
  queues : List (Nat × Nat) := []
  tasks : List Task := []
  /-- What has been printed on the streams of which task and has not been heard yet, the last first. -/
  printed : List (Nat × Chunk) := []
  /-- The number given to the last task. -/
  lastTask : Nat := 1000

/-- What a call comes to. -/
inductive Answer (α : Type) where
  | given (a : α) (m : Machine)
  /-- There is no answer so far. -/
  | blocked
  /-- The task has not lived to hear the answer. -/
  | gone (m : Machine)

/-! ### Pipes -/

namespace Pipe

/-- The room that a pipe has. -/
def capacity : Nat := 65536

/-- What is written at once without being cut, up to this size. -/
def atomicSize : Nat := 4096

def push (p : Pipe) (text : String) (size : Nat) : Pipe :=
  { p with back := text :: p.back, size := p.size + size }

/-- Take up to so many octets off pieces of text. -/
def takeFrom : List String → Nat → List String × List String
  | [], _ => ([], [])
  | piece :: pieces, count =>
    if count = 0 then ([], piece :: pieces)
    else
      let length := piece.length
      if length ≤ count then
        let (taken, left) := takeFrom pieces (count - length)
        (piece :: taken, left)
      else
        let cs := piece.toList
        ([.ofList (cs.take count)], .ofList (cs.drop count) :: pieces)

/-- Take up to so many octets. -/
def take (p : Pipe) (count : Nat) : String × Pipe :=
  let front := if p.back.isEmpty then p.front else p.front ++ p.back.reverse
  let (taken, left) := takeFrom front count
  let text := String.join taken
  (text, ⟨left, [], p.size - text.length⟩)

/-- How many octets there are up to and including a character, if it is there. -/
def lengthThrough (p : Pipe) (stop : Char) : Option Nat :=
  let front := p.front ++ p.back.reverse
  let rec go (before : Nat) : List String → Option Nat
    | [] => none
    | piece :: pieces =>
      match Text.splitFirst stop piece.toList with
      | some (line, _) => some (before + line.length + 1)
      | none => go (before + piece.length) pieces
  go 0 front

end Pipe

namespace Task

/-- The lowest descriptor that is free and not below a number. -/
def lowestFree (t : Task) (least : Nat) : Nat :=
  let candidates := (List.range (t.descriptors.length + 1)).map (· + least)
  (candidates.find? fun fd => (t.descriptors.lookup fd).isNone).getD least

/-- Lead a descriptor to an open file. -/
def lead (t : Task) (fd file : Nat) : Task :=
  { t with descriptors := (fd, file) :: t.descriptors.filter (·.1 != fd) }

/-- What is done on a signal. -/
def response (t : Task) (signal : Nat) : Response :=
  (t.responses.lookup signal).getD .default

/-- Is the task there and not at its end? -/
def isAlive (t : Task) : Bool :=
  t.ended.isNone

end Task

/-! ### Signals -/

/-- What a signal does to a process that does nothing about it. -/
inductive SignalEffect
  | nothing
  | stops
  | ends
deriving DecidableEq, Repr

/-- The effect of a signal, by its number. -/
def signalEffect (n : Nat) : SignalEffect :=
  if [0, 17, 18, 23, 28].contains n then .nothing
  else if [19, 20, 21, 22].contains n then .stops
  else .ends

namespace Machine

/-! ### Tasks -/

def task? (m : Machine) (number : Nat) : Option Task :=
  m.tasks.find? (·.number == number)

/-- Change a task. -/
def changeTask (m : Machine) (number : Nat) (f : Task → Task) : Machine :=
  { m with tasks := m.tasks.map fun t => if t.number == number then f t else t }

/-- Does a task that is alive hold such an open file? -/
def isHeld (m : Machine) (p : OpenFile → Bool) : Bool :=
  m.tasks.any fun t => t.isAlive && t.descriptors.any fun (_, f) => (m.files[f]?).any p

/-- The open file that a descriptor leads to, with its number. -/
def openFile? (m : Machine) (t : Task) (fd : Nat) : Option (Nat × OpenFile) := do
  let f ← t.descriptors.lookup fd
  let file ← m.files[f]?
  return (f, file)

/-- The time now. -/
def now (m : Machine) : Int :=
  m.epoch + m.clock

/-- File times are kept as multiples of this. -/
def timeGrain : Int := 4000

/-- The tree, in which what is changed is changed now. -/
def treeNow (m : Machine) : Tree :=
  { m.tree with now := m.now / timeGrain * timeGrain }

/-- End a task. Its children that are at their end are forgotten, and the others have no parent any
more; its own parent is told. -/
def endTask (m : Machine) (number : Nat) (ending : Ending) : Machine :=
  match m.task? number with
  | none => m
  | some t =>
    let tasks := m.tasks.filterMap fun other =>
      if other.number == number then
        if t.parent = 1 then none
        else some { t with
          ended := some ending, descriptors := [], process := .ended ending, time := m.clock }
      else if other.parent == number then
        if other.isAlive then some { other with parent := 1 } else none
      else if other.number == t.parent && other.response 17 == .note && !other.noted.contains 17 then
        some { other with noted := other.noted ++ [17] }
      else some other
    { m with tasks }

/-- The time until a task ends that a signal from another one ends. -/
def dyingTime : Nat := 50

/-- Let a signal end a task: at once if it has sent the signal itself, or else in a moment. -/
def endBySignal (m : Machine) (sender number signal : Nat) : Machine :=
  if number = sender then m.endTask number (.killed signal)
  else m.changeTask number fun t =>
    match t.process with
    | .ended (.killed _) => t
    | _ => { t with
        process := .ended (.killed signal), waiting := false, stopped := false
        time := m.clock + dyingTime }

/-- Send a signal from one task to another. -/
def deliver (m : Machine) (sender number signal : Nat) : Machine :=
  match m.task? number with
  | none => m
  | some t =>
    if !t.isAlive || signal = 0 then m
    else if signal = 9 then m.endBySignal sender number 9
    else
      let m := if signal = 18 then m.changeTask number ({ · with stopped := false }) else m
      if signal = 19 then m.changeTask number ({ · with stopped := true })
      else
        match t.response signal with
        | .ignore => m
        | .note =>
          m.changeTask number fun t =>
            if t.noted.contains signal then t else { t with noted := t.noted ++ [signal] }
        | .default =>
          match signalEffect signal with
          | .nothing => m
          | .stops => m.changeTask number ({ · with stopped := true })
          | .ends => m.endBySignal sender number signal

/-! ### Files -/

/-- The content of a file, replaced from an offset on as far as the new bytes reach. -/
def overwrite (content : Text.Bytes) (offset : Nat) (bytes : Text.Bytes) : Text.Bytes :=
  content.take offset ++ List.replicate (offset - content.length) 0 ++ bytes ++
    content.drop (offset + bytes.length)

/-- What a program looks like from outside. -/
def programBytes : Text.Bytes :=
  [0x7F, 0x45, 0x4C, 0x46, 2, 1, 1, 0]

/-- The content of a file, by its number. -/
def content (m : Machine) (number : Nat) : Except MachineFault Text.Bytes :=
  match m.tree.numbered? number with
  | some n =>
    match n.body with
    | .file bytes => .ok bytes
    | .program _ => .ok programBytes
    | .directory => .error .isDirectory
    | _ => .ok []
  | none => .error .isDirectory

/-- Set the offset of an open file. -/
def setOffset (m : Machine) (file offset : Nat) : Machine :=
  { m with files := m.files.modify file ({ · with offset }) }

/-- What can be known of a node. -/
def statusOf (m : Machine) (place : Route) (n : Node) : Status :=
  let (kind, size) : Kind × Nat :=
    match n.body with
    | .file bytes => (.file, bytes.length)
    | .directory => (.directory, 4096)
    | .link target => (.link, target.length)
    | .device _ => (.device, 0)
    | .descriptor _ => (.link, 64)
    | .here => (.link, 0)
    | .program _ => (.file, programBytes.length)
    | .queue => (.queue, 0)
  { kind, mode := n.mode, size, time := n.time, number := n.number
    links := m.tree.nameCount place n }

/-- What can be known of an open file. -/
def fileStatus (m : Machine) (file : OpenFile) : Status :=
  match file.target with
  | .node number =>
    match m.tree.placeOf? number with
    | some place => m.statusOf place ((m.tree.node? place).getD Tree.root)
    | none =>
      match m.tree.numbered? number with
      | some n => { m.statusOf [] n with links := 0 }
      | none => ⟨.file, 0o644, 0, 0, number, 0⟩
  | .device d =>
    let number := match d with | .null => 5 | .zero => 6 | .full => 7 | .terminal => 8
    ⟨.device, 0o666, 0, 0, number, 1⟩
  | .console _ stream => ⟨.queue, 0o600, 0, 0, if stream = .out then 3 else 4, 1⟩
  | .pipe index => ⟨.queue, 0o600, 0, 0, 1000000 + index, 1⟩

end Machine

end Ensemble
