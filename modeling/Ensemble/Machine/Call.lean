import Ensemble.Machine.Fault

/-!
# Ensemble.Machine.Call

What **processes** ask of the machine that they run on. A `Call` is a question, and its type of
answer goes with it (`Call.Reply`). A `Process` is what a process still has to do: it has ended, or
it asks something and goes on with the answer, or it starts another process. So a process is a
value that can be put aside while it waits, and a machine can run many of them in turn.

`Doing α` is the way to write processes: something that is done on the way to an `α`, given what is
done with it afterwards. Octets are read and written (`Text.Octets`), and times are microseconds.
-/

namespace Ensemble

/-- How a process ends. -/
inductive Ending
  | exited (status : Nat)
  | killed (signal : Nat)
deriving DecidableEq, Repr

/-- The status that a shell sees. -/
def Ending.status : Ending → Nat
  | .exited n => n
  | .killed n => 128 + n

/-- How a file is opened. -/
structure Opening where
  reads : Bool := false
  writes : Bool := false
  /-- Is a file made if there is none? -/
  create : Bool := false
  /-- Is it refused that there is a file? -/
  fresh : Bool := false
  /-- Is the file emptied? -/
  truncate : Bool := false
  /-- Is everything written at the end? -/
  append : Bool := false
  /-- The mode of a new file, before the mask. -/
  mode : Nat := 0o666
deriving DecidableEq, Repr

/-- What an offset counts from. -/
inductive Origin
  | start
  | here
  | finish
deriving DecidableEq, Repr

/-- The kinds of places in a tree. -/
inductive Kind
  | file
  | directory
  | link
  | device
  | queue
deriving DecidableEq, Repr

/-- What is run when a program is started. -/
inductive Image
  /-- A program of the machine's own. -/
  | program (name : String)
  /-- A file, which begins like this. -/
  | text (head : String)
deriving DecidableEq, Repr

/-- What can be known of a place without reading it. -/
structure Status where
  kind : Kind
  mode : Nat
  size : Nat
  time : Int
  /-- Two places with one number are one file. -/
  number : Nat
  /-- The number of its names. -/
  links : Nat
deriving DecidableEq, Repr

/-- What is done when a signal comes. -/
inductive Response
  | default
  | ignore
  /-- The process is told when it asks. -/
  | note
deriving DecidableEq, Repr

/-- What is told to a process that waits for others. -/
inductive Waited
  | ended (process : Nat) (ending : Ending)
  /-- There is no such process to wait for. -/
  | nobody
  /-- None has ended so far. -/
  | notYet
  /-- A signal came first. -/
  | interrupted
deriving DecidableEq, Repr

/-- What a process can ask for. -/
inductive Call
  /-- Open a file on the lowest free descriptor. -/
  | openFile (path : String) (how : Opening)
  | close (fd : Nat)
  /-- Lead a descriptor to where another leads. -/
  | duplicate (fd target : Nat)
  /-- The same, with the lowest free descriptor that is not below a number. -/
  | duplicateAbove (fd least : Nat)
  /-- Two new descriptors: what is written to the second is read from the first. -/
  | pipe
  /-- Read up to so many octets; none at the end. -/
  | read (fd count : Nat)
  /-- The same, but not beyond a character. -/
  | readThrough (fd : Nat) (stop : Char) (count : Nat)
  /-- Write as much as there is room for. -/
  | write (fd : Nat) (text : String)
  | seek (fd : Nat) (offset : Int) (origin : Origin)
  | status (path : String) (follow : Bool)
  | descriptorStatus (fd : Nat)
  | readLink (path : String)
  /-- The path of a place that leads through no link. -/
  | realPath (path : String)
  /-- The names in a directory. -/
  | list (path : String)
  | image (path : String)
  | makeDirectory (path : String) (mode : Nat)
  | makeQueue (path : String) (mode : Nat)
  | removeDirectory (path : String)
  | unlink (path : String)
  | rename (source target : String)
  | link (source target : String) (follow : Bool)
  | makeLink (content path : String)
  | setMode (path : String) (mode : Nat)
  | setTime (path : String) (time : Int) (follow : Bool)
  | setSize (fd size : Nat)
  | changeDirectory (path : String)
  | directory
  /-- Set the mask, and get the one before. -/
  | setMask (mask : Nat)
  /-- Go on as another program: descriptors of the program's own are not kept, and no signal is noted. -/
  | become
  | wait (process : Option Nat) (block interruptible : Bool)
  /-- Send a signal to a process, to all of one's own group (0), or to a group, by its opposite. -/
  | signal (process : Int) (signal : Nat)
  /-- Begin a group of processes, to which those started from now on belong. -/
  | ownGroup
  | self
  | parent
  /-- Set what is done on a signal, and get what was done before. -/
  | respond (signal : Nat) (response : Response)
  /-- The signals that have come and are not told yet. -/
  | noted
  | sleep (time : Nat)
  | clock
  /-- Nothing, but it takes a moment. -/
  | tick
deriving Repr

/-- What is answered to a call. -/
@[reducible] def Call.Reply : Call → Type
  | .openFile .. => Except MachineFault Nat
  | .close _ => Except MachineFault Unit
  | .duplicate .. => Except MachineFault Unit
  | .duplicateAbove .. => Except MachineFault Nat
  | .pipe => Nat × Nat
  | .read .. => Except MachineFault String
  | .readThrough .. => Except MachineFault String
  | .write .. => Except MachineFault Nat
  | .seek .. => Except MachineFault Nat
  | .status .. => Except MachineFault Status
  | .descriptorStatus _ => Except MachineFault Status
  | .readLink _ => Except MachineFault String
  | .realPath _ => Except MachineFault String
  | .list _ => Except MachineFault (List String)
  | .image _ => Except MachineFault Image
  | .makeDirectory .. => Except MachineFault Unit
  | .makeQueue .. => Except MachineFault Unit
  | .removeDirectory _ => Except MachineFault Unit
  | .unlink _ => Except MachineFault Unit
  | .rename .. => Except MachineFault Unit
  | .link .. => Except MachineFault Unit
  | .makeLink .. => Except MachineFault Unit
  | .setMode .. => Except MachineFault Unit
  | .setTime .. => Except MachineFault Unit
  | .setSize .. => Except MachineFault Unit
  | .changeDirectory _ => Except MachineFault Unit
  | .directory => String
  | .setMask _ => Nat
  | .become => Unit
  | .wait .. => Waited
  | .signal .. => Except MachineFault Unit
  | .ownGroup => Unit
  | .self => Nat
  | .parent => Nat
  | .respond .. => Response
  | .noted => List Nat
  | .sleep _ => Unit
  | .clock => Int
  | .tick => Unit

/-- What a process still has to do. -/
inductive Process
  | ended (how : Ending)
  | call (c : Call) (next : c.Reply → Process)
  | fork (child : Process) (next : Nat → Process)

instance : Inhabited Process := ⟨.ended (.exited 0)⟩

/-- What a process does on the way to an `α`. -/
def Doing (α : Type) : Type :=
  (α → Process) → Process

namespace Doing

@[inline] protected def pure (a : α) : Doing α :=
  fun next => next a

@[inline] protected def bind (d : Doing α) (f : α → Doing β) : Doing β :=
  fun next => d fun a => f a next

instance : Monad Doing where
  pure := Doing.pure
  bind := Doing.bind

instance : LawfulMonad Doing :=
  .mk' (m := Doing) (fun _ => rfl) (fun _ _ => rfl) (fun _ _ _ => rfl)

/-- Ask the machine. -/
@[inline] def ask (c : Call) : Doing c.Reply :=
  fun next => .call c next

/-- Start a process. -/
@[inline] def fork (child : Process) : Doing Nat :=
  fun next => .fork child next

/-- End, and do nothing of what was to be done afterwards. -/
@[inline] def finish (how : Ending) : Doing α :=
  fun _ => .ended how

/-- A process that does this and ends with the status it comes to. -/
def toProcess (d : Doing Nat) : Process :=
  d fun status => .ended (.exited status)

/-- What is done after the end is not done. -/
theorem finish_bind (how : Ending) (f : α → Doing β) :
    (finish how >>= f : Doing β) = finish how := rfl

/-- What is done after a call is done with its answer. -/
theorem ask_bind (c : Call) (f : c.Reply → Doing β) (next : β → Process) :
    (ask c >>= f : Doing β) next = .call c fun r => f r next := rfl

end Doing

end Ensemble
