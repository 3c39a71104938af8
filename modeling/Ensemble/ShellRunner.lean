import Ensemble.World

/-!
# Ensemble.ShellRunner

The **shell runner** executes invocations by a shell on a machine. What a command does to the file tree
is what the others find, whether they run beside it or after it. What a command leaves running in the
background runs on with the next ones.

The shell is a program like any other. It is looked for where the environment of the invocation says,
from the directory of the invocation; so an invocation can fail before anything is run.
-/

namespace Ensemble

namespace Invocation

/-- Does any part of the invocation hold a NUL, which no process can be given? -/
def holdsNul (inv : Invocation) : Bool :=
  Ensemble.holdsNul inv.command || inv.dir.any (Ensemble.holdsNul ·.text) ||
    inv.env.any fun b => Ensemble.holdsNul b.key || Ensemble.holdsNul b.value

/-- The bindings that an invocation has in a world. If it adds any to those of the world, they are in
the order of their keys, and of the bindings of one key the last counts. -/
def bindings (inv : Invocation) (w : World) : List (String × String) :=
  let octets (b : Binding) := (Text.Octets.ofText b.key, Text.Octets.ofText b.value)
  let inherited := w.environment.map octets
  if inv.env.isEmpty then inherited
  else
    let all := (inherited ++ inv.env.map octets).reverse
    let last := all.foldl (fun kept (key, value) =>
      if (kept.lookup key).isSome then kept else (key, value) :: kept) []
    last.mergeSort fun a b => decide (a.1 ≤ b.1)

/-- The paths at which a shell can be, without a variable that says where. -/
def usualShells : List String :=
  ["/bin/sh", "/usr/bin/sh"]

/-- The paths at which a shell can be. -/
def shellPaths (bindings : List (String × String)) : List String :=
  match bindings.lookup "PATH" with
  | some search => Shell.Lookup.candidates (some search) "sh"
  | none => usualShells

/-- The arguments of the shell. -/
def arguments (inv : Invocation) : List String :=
  ["sh", "-c", Text.Octets.ofText inv.command]

end Invocation

namespace Machine

/-- The first of these paths at which there is something to run, or the reason why there is none. -/
def runnable (m : Machine) (t : Task) : MachineFault → List String → Except MachineFault String
  | reason, [] => .error reason
  | reason, path :: paths =>
    match m.imageAt t path with
    | .ok _ => .ok path
    | .error .notPermitted => m.runnable t .notPermitted paths
    | .error e =>
      if e = .notFound ∨ e = .notDirectory then
        m.runnable t (if reason = .notPermitted then reason else e) paths
      else .error e

/-- How many processes may follow one another in one task. -/
def launchLimit : Nat := 100000

/-- How many steps a machine runs at most until something is heard. -/
def stepLimit : Nat := 1000000000

end Machine

namespace Chunk

/-- The greatest size of what is read at once. -/
def limit : Nat := 8192

/-- Cut bytes into pieces that can be read at once. -/
def pieces : Nat → Text.Bytes → List Text.Bytes
  | 0, bytes => [bytes]
  | fuel + 1, bytes =>
    if bytes.length ≤ limit then [bytes]
    else bytes.take limit :: pieces fuel (bytes.drop limit)

/-- The chunks in which a chunk is read. -/
def cut (c : Chunk) : List Chunk :=
  (pieces c.bytes.length c.bytes).map fun bytes => ⟨c.stream, bytes⟩

/-- Cutting bytes loses nothing. -/
theorem flatten_pieces (fuel : Nat) (bytes : Text.Bytes) : (pieces fuel bytes).flatten = bytes := by
  induction fuel generalizing bytes with
  | zero => simp [pieces]
  | succ fuel ih =>
      rw [pieces]
      split
      · simp
      · simp [ih]

end Chunk

namespace World

/-- The directory that an invocation starts in, or the reason why it does not start. -/
def startingPlace (w : World) (inv : Invocation) : Except MachineFault Route :=
  match inv.dir with
  | none => .ok w.place
  | some dir => do
    let (place, n) ← w.tree.find w.place (octets dir)
    if n.isDirectory then return place else .error .notDirectory

/-- Where an invocation starts and what it starts, or the reason why it does not start. -/
def launch (w : World) (inv : Invocation) : Except String (Route × Process) :=
  if inv.holdsNul then .error "nul byte found in provided data"
  else Except.mapError MachineFault.numbered do
    let place ← w.startingPlace inv
    let bindings := inv.bindings w
    let texts := bindings.map fun (key, value) => key ++ "=" ++ value
    let starter : Task := {
      number := Machine.starter, parent := 0, process := .ended (.exited 0), time := 0
      descriptors := [], directory := place }
    let path ← w.machine.runnable starter .notFound (Invocation.shellPaths bindings)
    if !Launch.fits path inv.arguments texts then .error .tooMuch
    let launch := launchAt Utility.program? Machine.launchLimit
    let act : Doing Nat := do
      let _ ← launch path inv.arguments texts
      return 127
    return (place, act.toProcess)

/-- Start an invocation. -/
def start (number : Nat) (inv : Invocation) (w : World) : World :=
  match w.launch inv with
  | .error reason =>
    let result := .error (.outside ("spawning `" ++ inv.command ++ "`") [reason])
    { w with queue := w.queue ++ [(number, .ended result)] }
  | .ok (place, process) =>
    let (task, machine) := w.machine.enter place process
    { w with machine, clients := w.clients ++ [{ number, task, command := inv.command }] }

/-- Take note of what has been printed by the command of a task. -/
def note (w : World) (task : Nat) (chunk : Chunk) : World :=
  match w.clients.find? (·.task == task) with
  | none => w
  | some client =>
    { w with
      clients := w.clients.map fun c =>
        if c.task == task then { c with chunks := chunk :: c.chunks } else c
      queue := w.queue ++ chunk.cut.map fun piece => (client.number, .chunk piece) }

/-- Take note of all that has been printed. -/
def noteAll (w : World) : World :=
  let printed := w.machine.printed.reverse
  printed.foldl (fun w (task, chunk) => w.note task chunk)
    { w with machine := { w.machine with printed := [] } }

/-- Take note that a command is over. -/
def conclude (w : World) (c : Client) : World :=
  let transcript : Transcript := ⟨c.chunks.reverse, w.machine.verdict c.task⟩
  { w with
    machine := w.machine.forget c.task
    clients := w.clients.filter (·.task != c.task)
    queue := w.queue ++ [(c.number, .ended (transcript.result c.command))] }

/-- Let the machine run until something happens that can be heard. If nothing ever will, the command
that was started first counts as over. -/
def advance (w : World) : World :=
  let machine := w.machine.run (w.clients.map (·.task)) Machine.stepLimit
  let w := { w with machine }
  if !machine.printed.isEmpty then w.noteAll
  else
    match (w.clients.find? fun c => machine.isOver c.task).or w.clients.head? with
    | some c => w.conclude c
    | none => w

/-- What is heard next. -/
def next? (w : World) : Option (Heard World) :=
  match w.patience with
  | 0 => none
  | patience + 1 =>
    let w := if w.queue.isEmpty && !w.clients.isEmpty then w.advance else w
    match w.queue with
    | [] => none
    | (number, news) :: queue => some { number, news, world := { w with queue, patience } }

theorem size_next {w : World} {heard : Heard World} (h : w.next? = some heard) :
    heard.world.patience < w.patience := by
  unfold next? at h
  split at h
  · simp at h
  · rename_i hp
    dsimp only at h
    split at h
    · simp at h
    · cases h
      simp [hp]

end World

/-- The runner that executes invocations by a shell. -/
def shellRunner : Runner World where
  start := World.start
  next? := World.next?
  size := World.patience
  size_next := World.size_next
  failsOnRefusal := false

end Ensemble
