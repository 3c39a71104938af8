import Ensemble.Machine.Basic

/-!
# Ensemble.Machine.Perform

How a machine **answers** what its tasks ask (`Machine.answer`). Some calls have no answer until
another task has done something: a pipe is empty, or full, or no child has ended. Then nothing is
changed, and the call is asked again later.
-/

namespace Ensemble

namespace Machine

/-- Descriptors from the first of these on, and before the second, are a program's own: what it goes on as
does not get them. -/
def privateFirst : Nat := 10

def privateEnd : Nat := 40

/-- An answer that changes nothing. -/
def told (m : Machine) (a : α) : Answer α :=
  .given a m

/-- An answer that may be a refusal. -/
def settled (m : Machine) (r : Except MachineFault (α × Machine)) : Answer (Except MachineFault α) :=
  match r with
  | .ok (a, m) => .given (.ok a) m
  | .error e => .given (.error e) m

/-- A change of the tree that may be refused. -/
def changeTree (m : Machine) (f : Tree → Except MachineFault Tree) :
    Answer (Except MachineFault Unit) :=
  match f m.treeNow with
  | .ok tree => .given (.ok ()) { m with tree }
  | .error e => .given (.error e) m

/-- The place of a node, and the open file behind it if it stands for a descriptor. -/
inductive Found
  | node (place : Route) (n : Node)
  | opened (file : OpenFile)

/-- What is at a path, for a task. -/
def find (m : Machine) (t : Task) (path : String) (follow : Bool) : Except MachineFault Found := do
  let (place, n) ← m.tree.findTo follow t.directory path
  match n.body, follow with
  | .descriptor fd, true =>
    match m.openFile? t fd with
    | some (_, file) => return .opened file
    | none => .error .notFound
  | _, _ => return .node place n

/-! ### Opening and closing -/

/-- Put an open file on the lowest free descriptor of a task. -/
def install (m : Machine) (t : Task) (file : OpenFile) : Nat × Machine :=
  let fd := t.lowestFree 0
  let index := m.files.size
  (fd, { m with files := m.files.push file }.changeTask t.number (·.lead fd index))

/-- Does a task go on by opening one end of a queue? -/
def isOpening (m : Machine) (t : Task) (number : Nat) (toRead : Bool) : Bool :=
  t.isAlive &&
    match t.process with
    | .call (.openFile path how) _ =>
      (if toRead then how.reads else how.writes) &&
        match m.tree.find t.directory path with
        | .ok (_, n) => n.number == number
        | .error _ => false
    | _ => false

/-- Is an end of a pipe held, or may a task open it that has waited for that? -/
def isAwaited (m : Machine) (p : Nat) (toRead : Bool) : Bool :=
  m.isHeld (fun f => f.target == .pipe p && (if toRead then f.reads else f.writes)) ||
    match m.queues.find? (·.2 == p) with
    | some (number, _) => m.tasks.any fun t => t.granted && m.isOpening t number toRead
    | none => false

/-- Open a queue that has a name. Who opens one end waits for the other; who waits for that end may open the
other one then, whatever happens meanwhile. -/
def openQueue (m : Machine) (t : Task) (number : Nat) (how : Opening) :
    Answer (Except MachineFault Nat) :=
  let (index, m) :=
    match m.queues.lookup number with
    | some index => (index, m)
    | none =>
      (m.pipes.size,
        { m with pipes := m.pipes.push {}, queues := (number, m.pipes.size) :: m.queues })
  let isMet (other : Task) : Bool :=
    other.number != t.number && other.waiting &&
      ((how.reads && m.isOpening other number false) || (how.writes && m.isOpening other number true))
  let isThere := (how.reads && how.writes) || t.granted || m.tasks.any isMet || m.isAwaited index how.writes
  if isThere then
    let m := { m with tasks := m.tasks.map fun other => if isMet other then { other with granted := true } else other }
    let m := m.changeTask t.number ({ · with granted := false })
    let (fd, m) := m.install t ⟨.pipe index, how.reads, how.writes, how.append, 0⟩
    .given (.ok fd) m
  else .blocked

/-- Open a file. -/
def openPath (m : Machine) (t : Task) (path : String) (how : Opening) :
    Answer (Except MachineFault Nat) :=
  let opened (m : Machine) (target : Target) : Answer (Except MachineFault Nat) :=
    let (fd, m) := m.install t ⟨target, how.reads, how.writes, how.append, 0⟩
    .given (.ok fd) m
  let emptied (m : Machine) (number : Nat) : Machine :=
    if how.truncate && how.writes then
      { m with tree := m.treeNow.update number fun n =>
          match n.body with
          | .file _ => { n with body := .file [], time := m.treeNow.now }
          | _ => n }
    else m
  match m.find t path (!(how.create && how.fresh)) with
  | .ok (.opened file) =>
    match file.target with
    | .node number => opened (emptied m number) file.target
    | _ => opened m file.target
  | .ok (.node _ n) =>
    if how.create && how.fresh then .given (.error .present) m
    else
      match n.body with
      | .directory =>
        if how.writes || how.create then .given (.error .isDirectory) m
        else opened m (.node n.number)
      | .device .terminal => .given (.error .noDevice) m
      | .device d => opened m (.device d)
      | .queue => m.openQueue t n.number how
      | .link _ => .given (.error .tooManyLinks) m
      | _ => opened (emptied m n.number) (.node n.number)
  | .error e =>
    if how.create && e == .notFound then
      match m.tree.placeToWrite t.directory path with
      | .error e => .given (.error e) m
      | .ok place =>
        if (m.tree.node? place).isSome then .given (.error .notFound) m
        else
          let tree := m.treeNow
          let mode := how.mode - (how.mode &&& t.mask)
          opened { m with tree := tree.add place mode (.file []) } (.node tree.next)
    else .given (.error e) m

/-! ### Reading and writing -/

/-- Read from an open file: `measure` tells of what is there how much is wanted. -/
def readOpen (m : Machine) (t : Task) (fd count : Nat) (stop : Option Char) :
    Answer (Except MachineFault String) :=
  match m.openFile? t fd with
  | none => .given (.error .badDescriptor) m
  | some (index, file) =>
    if !file.reads then .given (.error .badDescriptor) m
    else
      match file.target with
      | .console .. => .given (.error .badDescriptor) m
      | .device .null | .device .terminal => .given (.ok "") m
      | .device _ => .given (.ok (.ofList (List.replicate count '\x00'))) m
      | .node number =>
        match m.content number with
        | .error e => .given (.error e) m
        | .ok bytes =>
          let piece := (bytes.drop file.offset).take count
          let piece :=
            match stop with
            | none => piece
            | some c =>
              match Text.splitFirst (UInt8.ofNat c.toNat) piece with
              | some (line, _) => piece.take (line.length + 1)
              | none => piece
          .given (.ok (Text.Octets.ofBytes piece)) (m.setOffset index (file.offset + piece.length))
      | .pipe p =>
        let pipe := m.pipes[p]?.getD {}
        if pipe.size = 0 then
          if count = 0 || !m.isAwaited p false then
            .given (.ok "") m
          else .blocked
        else
          let count :=
            match stop with
            | none => count
            | some c => min count ((pipe.lengthThrough c).getD count)
          let (text, pipe) := pipe.take count
          .given (.ok text) { m with pipes := m.pipes.set! p pipe }

/-- Write to an open file as much as there is room for. -/
def writeOpen (m : Machine) (t : Task) (fd : Nat) (text : String) :
    Answer (Except MachineFault Nat) :=
  match m.openFile? t fd with
  | none => .given (.error .badDescriptor) m
  | some (index, file) =>
    if !file.writes then .given (.error .badDescriptor) m
    else
      match file.target with
      | .device .full => .given (.error .noSpace) m
      | .device _ => .given (.ok text.length) m
      | .console owner stream =>
        if text = "" then .given (.ok 0) m
        else
          .given (.ok text.length)
            { m with printed := (owner, ⟨stream, Text.Octets.toBytes text⟩) :: m.printed }
      | .node number =>
        if text = "" then .given (.ok 0) m
        else
          let bytes := Text.Octets.toBytes text
          let old := (m.content number).toOption.getD []
          let offset := if file.append then old.length else file.offset
          let new := overwrite old offset bytes
          let tree := m.treeNow.update number fun n =>
            match n.body with
            | .file _ => { n with body := .file new, time := m.treeNow.now }
            | _ => n
          .given (.ok bytes.length) ({ m with tree }.setOffset index (offset + bytes.length))
      | .pipe p =>
        if !m.isAwaited p true then
          match t.response 13 with
          | .ignore => .given (.error .brokenPipe) m
          | .note => .given (.error .brokenPipe) (m.deliver t.number t.number 13)
          | .default => .gone (m.deliver t.number t.number 13)
        else
          let pipe := m.pipes[p]?.getD {}
          let length := text.length
          let room := Pipe.capacity - pipe.size
          if length ≤ room then
            .given (.ok length) { m with pipes := m.pipes.set! p (pipe.push text length) }
          else if room = 0 || length ≤ Pipe.atomicSize then .blocked
          else
            let piece := String.ofList (text.toList.take room)
            .given (.ok room) { m with pipes := m.pipes.set! p (pipe.push piece room) }

/-- Set the offset of an open file. -/
def seekOpen (m : Machine) (t : Task) (fd : Nat) (offset : Int) (origin : Origin) :
    Except MachineFault (Nat × Machine) :=
  match m.openFile? t fd with
  | none => .error .badDescriptor
  | some (index, file) =>
    match file.target with
    | .node number =>
      let base : Nat :=
        match origin with
        | .start => 0
        | .here => file.offset
        | .finish => ((m.content number).toOption.getD []).length
      let place := (base : Int) + offset
      if place < 0 then .error .invalid else .ok (place.toNat, m.setOffset index place.toNat)
    | .device _ => .ok (0, m)
    | _ => .error .notSeekable

/-! ### Places -/

def statusAt (m : Machine) (t : Task) (path : String) (follow : Bool) :
    Except MachineFault Status := do
  match ← m.find t path follow with
  | .node place n => return m.statusOf place n
  | .opened file => return m.fileStatus file

/-- The names in a directory. -/
def listAt (m : Machine) (t : Task) (path : String) : Except MachineFault (List String) := do
  let (place, n) ← m.tree.find t.directory path
  if !n.isDirectory then .error .notDirectory
  else
    let isOpen (name : String) : Bool :=
      match m.tree.node? (place ++ [name]) with
      | some ⟨.descriptor fd, _, _, _⟩ => (t.descriptors.lookup fd).isSome
      | _ => true
    return (m.tree.namesIn place).filter isOpen

/-- How much of a file is looked at when it is started. -/
def imageHead : Nat := 256

/-- What is run if the program at a path is started. -/
def imageAt (m : Machine) (t : Task) (path : String) : Except MachineFault Image := do
  let (_, n) ← m.tree.find t.directory path
  if !n.isExecutable then .error .notPermitted
  match n.body with
  | .program name => return .program name
  | .file bytes => return .text (Text.Octets.ofBytes (bytes.take imageHead))
  | _ => .error .notPermitted

/-- The last name of a path. -/
def lastName (path : String) : String :=
  ((Tree.names path).getLast?).getD ""

def isSlashed (path : String) : Bool :=
  path.toList.getLast? = some '/'

/-- Take away an empty directory. -/
def removeDirectoryAt (t : Task) (path : String) (tree : Tree) : Except MachineFault Tree := do
  let (place, n) ← tree.findLink t.directory path
  if lastName path = "." then .error .invalid
  else if lastName path = ".." then .error .notEmpty
  else if !n.isDirectory then .error .notDirectory
  else if place = [] then .error .busy
  else if !(tree.namesIn place).isEmpty then .error .notEmpty
  else return tree.remove place

/-- Take away a name of a file. -/
def unlinkAt (t : Task) (path : String) (tree : Tree) : Except MachineFault Tree := do
  let (place, n) ← tree.findLink t.directory path
  if n.isDirectory then .error .isDirectory
  else return tree.remove place

/-- The place of something new. -/
def newPlace (t : Task) (path : String) (tree : Tree) : Except MachineFault Route := do
  let place ← tree.walkTo false t.directory path
  if (tree.node? place).isSome then .error .present
  else if isSlashed path then .error .notFound
  else return place

/-- Give something another name. -/
def renameAt (t : Task) (source target : String) (tree : Tree) : Except MachineFault Tree := do
  let (place, n) ← tree.findLink t.directory source
  if ["", ".", ".."].contains (lastName source) || ["", ".", ".."].contains (lastName target) then
    .error .busy
  let goal ← tree.walkTo false t.directory target
  if n.isDirectory && place.isPrefixOf goal && place != goal then .error .invalid
  match tree.node? goal with
  | some old =>
    if old.number = n.number then return tree
    else if n.isDirectory && !old.isDirectory then .error .notDirectory
    else if !n.isDirectory && old.isDirectory then .error .isDirectory
    else if old.isDirectory && !(tree.namesIn goal).isEmpty then .error .notEmpty
    else return tree.move place goal
  | none =>
    if !n.isDirectory && isSlashed target then .error .notDirectory
    else return tree.move place goal

/-- Give a file one more name. -/
def linkAt (t : Task) (source target : String) (follow : Bool) (tree : Tree) :
    Except MachineFault Tree := do
  let (_, n) ← tree.findTo follow t.directory source
  let place ← newPlace t target tree
  if n.isDirectory then .error .notAllowed
  else return tree.put place n

/-! ### Waiting for children -/

/-- What is told to a task that waits. -/
def waitFor (m : Machine) (t : Task) (which : Option Nat) (block interruptible : Bool) :
    Answer Waited :=
  let children := m.tasks.filter fun child =>
    child.parent == t.number && (which.all (· == child.number))
  let ended := (children.filter (!·.isAlive)).mergeSort fun a b => decide (a.time ≤ b.time)
  match ended with
  | child :: _ =>
    let tasks := m.tasks.filter (·.number != child.number)
    .given (.ended child.number (child.ended.getD (.exited 0))) { m with tasks }
  | [] =>
    if children.isEmpty then .given .nobody m
    else if interruptible && !t.noted.isEmpty then .given .interrupted m
    else if block then .blocked
    else .given .notYet m

/-- Send a signal to one task, or to a group of them. -/
def signalTo (m : Machine) (t : Task) (process : Int) (signal : Nat) :
    Answer (Except MachineFault Unit) :=
  let isMeant (o : Task) : Bool :=
    if 0 < process then (o.number : Int) == process
    else if process = 0 then o.group == t.group
    else if process = -1 then o.number != t.number
    else o.group == process.natAbs
  let targets := (m.tasks.filter isMeant).map (·.number)
  if targets.isEmpty then
    .given (if process = t.parent then .ok () else .error .noProcess) m
  else
    let m := targets.foldl (fun m number => m.deliver t.number number signal) m
    match m.task? t.number with
    | some t => if t.isAlive then .given (.ok ()) m else .gone m
    | none => .gone m

/-! ### All calls -/

/-- The time that a tick takes. -/
def tickTime : Nat := 5

/-- The time until a new process begins. What its parent does next comes before. -/
def forkTime : Nat := 500

/-- The time that it takes a parent to start a process. -/
def forkingTime : Nat := 20

/-- The time until a program begins. -/
def becomeTime : Nat := 500

/-- Answer a call of a task. -/
def answer (m : Machine) (t : Task) : (c : Call) → Answer c.Reply
  | .openFile path how => m.openPath t path how
  | .close fd =>
    if (t.descriptors.lookup fd).isSome then
      .given (.ok ()) (m.changeTask t.number fun t =>
        { t with descriptors := t.descriptors.filter (·.1 != fd) })
    else .given (.error .badDescriptor) m
  | .duplicate fd target =>
    match t.descriptors.lookup fd with
    | some file => .given (.ok ()) (m.changeTask t.number (·.lead target file))
    | none => .given (.error .badDescriptor) m
  | .duplicateAbove fd least =>
    match t.descriptors.lookup fd with
    | some file =>
      let new := t.lowestFree least
      .given (.ok new) (m.changeTask t.number (·.lead new file))
    | none => .given (.error .badDescriptor) m
  | .pipe =>
    let index := m.pipes.size
    let m := { m with pipes := m.pipes.push {} }
    let (source, m) := m.install t ⟨.pipe index, true, false, false, 0⟩
    match m.task? t.number with
    | some t =>
      let (sink, m) := m.install t ⟨.pipe index, false, true, false, 0⟩
      .given (source, sink) m
    | none => .gone m
  | .read fd count => m.readOpen t fd count none
  | .readThrough fd stop count => m.readOpen t fd count (some stop)
  | .write fd text => m.writeOpen t fd text
  | .seek fd offset origin => m.settled (m.seekOpen t fd offset origin)
  | .status path follow => m.told (m.statusAt t path follow)
  | .descriptorStatus fd =>
    match m.openFile? t fd with
    | some (_, file) => .given (.ok (m.fileStatus file)) m
    | none => .given (.error .badDescriptor) m
  | .readLink path =>
    m.told do
      let (_, n) ← m.tree.findLink t.directory path
      match n.body with
      | .link target => return target
      | .here => return t.directory.toPath
      | _ => .error .invalid
  | .realPath path => m.told ((m.tree.find t.directory path).map fun (place, _) => place.toPath)
  | .list path => m.told (m.listAt t path)
  | .image path => m.told (m.imageAt t path)
  | .makeDirectory path mode =>
    m.changeTree (·.makeDirectory (mode - (mode &&& t.mask)) t.directory path)
  | .makeQueue path mode =>
    m.changeTree fun tree => do
      let place ← newPlace t path tree
      return tree.add place (mode - (mode &&& t.mask)) .queue
  | .removeDirectory path => m.changeTree (removeDirectoryAt t path)
  | .unlink path => m.changeTree (unlinkAt t path)
  | .rename source target => m.changeTree (renameAt t source target)
  | .link source target follow => m.changeTree (linkAt t source target follow)
  | .makeLink content path =>
    m.changeTree fun tree => do
      if content = "" then .error .notFound
      let place ← newPlace t path tree
      return tree.add place 0o777 (.link content)
  | .setMode path mode =>
    m.changeTree fun tree => do
      let (_, n) ← tree.find t.directory path
      return tree.update n.number ({ · with mode })
  | .setTime path time follow =>
    m.changeTree fun tree => do
      let (_, n) ← tree.findTo follow t.directory path
      return tree.update n.number ({ · with time })
  | .setSize fd size =>
    match m.openFile? t fd with
    | some (_, ⟨.node number, _, true, _, _⟩) =>
      m.changeTree fun tree => do
        return tree.update number fun n =>
          match n.body with
          | .file bytes =>
            { n with
              body := .file (bytes.take size ++ List.replicate (size - bytes.length) 0)
              time := tree.now }
          | _ => n
    | some _ => .given (.error .invalid) m
    | none => .given (.error .badDescriptor) m
  | .changeDirectory path =>
    match m.tree.find t.directory path with
    | .error e => .given (.error e) m
    | .ok (place, n) =>
      if n.isDirectory then .given (.ok ()) (m.changeTask t.number ({ · with directory := place }))
      else .given (.error .notDirectory) m
  | .directory => .given t.directory.toPath m
  | .setMask mask => .given t.mask (m.changeTask t.number ({ · with mask }))
  | .become =>
    .given () (m.changeTask t.number fun t =>
      { t with
        time := t.time + becomeTime
        descriptors := t.descriptors.filter fun (fd, _) => fd < privateFirst || privateEnd ≤ fd
        responses := t.responses.filter fun (_, r) => r != .note })
  | .wait which block interruptible => m.waitFor t which block interruptible
  | .signal process signal => m.signalTo t process signal
  | .ownGroup => .given () (m.changeTask t.number fun t => { t with group := t.number })
  | .self => .given t.number m
  | .parent => .given t.parent m
  | .respond signal response =>
    .given (t.response signal) (m.changeTask t.number fun t =>
      { t with responses := (signal, response) :: t.responses.filter (·.1 != signal) })
  | .noted => .given t.noted (m.changeTask t.number ({ · with noted := [] }))
  | .sleep time => .given () (m.changeTask t.number fun t => { t with time := t.time + time })
  | .clock => .given m.now m
  | .tick => .given () (m.changeTask t.number fun t => { t with time := t.time + tickTime })

end Machine

end Ensemble
