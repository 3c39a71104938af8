import Ensemble.Shell.Expansion
import Ensemble.Shell.Extended.Reader
import Ensemble.Shell.Inside
import Ensemble.Text.Calendar

/-!
# Ensemble.Shell.Process

The **processes** of a shell. A process that the shell starts is a copy of it, which does something
and ends. Processes that belong together are a `Job`; the shell waits for a job, or goes on while the
job runs in the background. Whichever process ends meanwhile, the shell keeps its end in mind.
-/

/-! ### Prompts

**Texts that are expanded when they are shown**, such as the mark before a traced command. A backslash and a
letter stand for something that the shell knows (`Prompt.decoded`); what is left is expanded as a word between
double quotes.
-/

namespace Ensemble.Shell.Extended

namespace Prompt

/-- The last part of a path. -/
def lastPart (path : String) : String :=
  .ofList ((path.toList.reverse.takeWhile (· != '/')).reverse)

/-- A path, in which the home directory is told by its mark. -/
def shortPath (s : Shell) : String :=
  match s.value? "HOME" with
  | some home =>
    if home = "" || home = "/" then s.path
    else if s.path = home then "~"
    else if (home ++ "/").toList.isPrefixOf s.path.toList then
      "~" ++ .ofList (s.path.toList.drop home.length)
    else s.path
  | none => s.path

/-- What a letter behind a backslash stands for. -/
def meaning? (s : Shell) (now : Int) : Char → Option String
  | 'a' => some "\x07"
  | 'e' => some "\x1b"
  | 'n' => some "\n"
  | 'r' => some "\r"
  | '\x5c' => some "\x5c"
  | '$' => some "#"
  | 'u' => some "root"
  | 'h' => some (.ofList (((s.value? "HOSTNAME").getD "").toList.takeWhile (· != '.')))
  | 'H' => s.value? "HOSTNAME"
  | 's' => some (lastPart s.name)
  | 'v' => some "5.2"
  | 'V' => some "5.2.21"
  | 'w' => some (shortPath s)
  | 'W' => let short := shortPath s; some (if short = "~" || short = "/" then short else lastPart short)
  | 'j' => some (toString s.jobs.length)
  | 'l' => some "tty"
  | '!' => some "0"
  | '#' => some "1"
  | 'd' => some (Text.Calendar.formatted now 0 "%a %b %d")
  | 't' => some (Text.Calendar.formatted now 0 "%H:%M:%S")
  | 'T' => some (Text.Calendar.formatted now 0 "%I:%M:%S")
  | '@' => some (Text.Calendar.formatted now 0 "%I:%M %p")
  | 'A' => some (Text.Calendar.formatted now 0 "%H:%M")
  | '[' | ']' => some ""
  | _ => none

/-- A text in which the letters behind backslashes are replaced. -/
def decoded (s : Shell) (now : Int) : Nat → List Char → List Char
  | 0, _ | _, [] => []
  | fuel + 1, '\x5c' :: 'D' :: '\x7b' :: cs =>
    let form := cs.takeWhile (· != '\x7d')
    (Text.Calendar.formatted now 0 (.ofList form)).toList ++ decoded s now fuel (cs.drop (form.length + 1))
  | fuel + 1, '\x5c' :: c :: cs =>
    let digits := ((c :: cs).take 3).takeWhile fun d => '0' ≤ d && d ≤ '7'
    if digits.length = 3 then
      .ofNat (Nat.ofDigitChars 8 digits 0 % 256) :: decoded s now fuel (cs.drop 2)
    else
      match meaning? s now c with
      | some text => text.toList ++ decoded s now fuel cs
      | none => '\x5c' :: c :: decoded s now fuel cs
  | fuel + 1, c :: cs => c :: decoded s now fuel cs

end Prompt

/-- The text of a word that a variable holds, expanded; as it stands if that is not possible. -/
def expandText (run : Expansion.Scripts) (text : String) : Act String := do
  let s ← get
  let cursor :=
    { Cursor.ofText text.toList 1 with documents := s.documents, nextDocument := s.nextDocument }
  let readers := (Reader.grammarAt Shell.Reader.depthLimit).scripts
  match (WordReader.read readers { double := true, marksStand := true }).run cursor with
  | .error _ => return text
  | .ok (w, _) => do
    match ← holding (Expansion.text run { quoted := true } w) with
    | .ok text => return text
    | .error .dropped => return text
    | .error e => throw e

/-- The text of a prompt, as it is shown. -/
def promptText (run : Expansion.Scripts) (text : String) : Act String := do
  let now := (← ask .clock) / 1000000
  expandText run (.ofList (Prompt.decoded (← get) now (text.length + 1) text.toList))

end Ensemble.Shell.Extended

/-! ### Processes -/

namespace Ensemble.Shell

namespace Process

/-! ### Jobs -/

/-- Change a job. -/
def changeJob (number : Nat) (f : Job → Job) : Act Unit :=
  modify fun s => { s with jobs := s.jobs.map fun j => if j.number == number then f j else j }

/-- Begin a job. Its number is the lowest that is free, or that of a job which is done and has been
waited for. -/
def newJob : Act Nat := do
  let s ← get
  let isFree (n : Nat) : Bool :=
    match s.jobs.find? (·.number == n) with
    | some j => j.isDone && j.waited
    | none => true
  let numbers := (List.range (s.jobs.length + 1)).map (· + 1)
  let number := (numbers.find? isFree).getD 1
  set { s with jobs := { number } :: s.jobs.filter (·.number != number) }
  return number

/-- Keep in mind how a process has ended; the answer is the number of its job. -/
def recordEnd (process : Nat) (ending : Ending) : Act (Option Nat) := do
  let s ← get
  let isIn (j : Job) : Bool := j.members.any fun m => m.process == process && m.ending.isNone
  match s.jobs.find? isIn with
  | none => return none
  | some job => do
    changeJob job.number fun j =>
      { j with members := j.members.map fun m =>
          if m.process == process then { m with ending := some ending } else m }
    return some job.number

/-- The statuses of processes that have ended. -/
def statusesOf (members : List Member) : List Nat :=
  members.map fun m => (m.ending.map Ending.status).getD 0

/-- The status of a job that is done: that of its last process. -/
def statusOf (members : List Member) : Nat :=
  (statusesOf members).getLastD 0

/-- Tell how a process has ended if a signal has ended it, in the plain dialect. -/
def tellDeath : Ending → Act Unit
  | .killed n => do
    if (← get).dialect = .plain then (deathNotice n).forM complain
  | .exited _ => pure ()

/-- No one waits more often for one job. -/
def waitLimit : Nat := 1000000

/-- Keep in mind which processes have ended so far. -/
def collect : Nat → Act Unit
  | 0 => return ()
  | fuel + 1 => do
    match ← ask (.wait none false false) with
    | .ended process ending => do
      let _ ← recordEnd process ending
      collect fuel
    | _ => return ()

/-- Keep in mind which processes have ended so far, if there can be any. -/
def collectIfAny : Act Unit := do
  if (← get).jobs.any (!·.isDone) then collect waitLimit

/-- Wait until a job is done, or until a signal comes if that counts; has the job been waited for? -/
def await (number : Nat) (interruptible : Bool) : Nat → Act Bool
  | 0 => return true
  | fuel + 1 => do
    match (← get).jobs.find? (·.number == number) with
    | none => return true
    | some job =>
      if job.isDone then return true
      match ← ask (.wait none true interruptible) with
      | .ended process ending => do
        let ended ← recordEnd process ending
        if ended == some number then tellDeath ending
        await number interruptible fuel
      | .interrupted => return false
      | _ => return true

/-- Wait for a job that the shell does not go on without; its processes. -/
def finishMembers (number : Nat) : Act (List Member) := do
  let _ ← await number false waitLimit
  collect waitLimit
  let s ← get
  let members := ((s.jobs.find? (·.number == number)).map (·.members)).getD []
  set { s with jobs := s.jobs.filter (·.number != number) }
  return members

/-- Tell in the extended dialect how the last process of a job has ended that the shell has waited for. -/
def tellEnd (text : String) (members : List Member) : Act Unit := do
  let s ← get
  if s.dialect = .extended && !(s.isArgument && s.isOutput) then
    match members.getLast?.bind fun m => m.ending.map (m.process, ·) with
    | some (process, .killed n) =>
      if n = 15 then complain "Terminated"
      else if n != 2 && n != 13 then
        let number := toString process
        let why := (deathNotice n).getD ""
        complain (s.complaintLead s.line ++ .ofList (List.replicate (5 - number.length) ' ') ++ number ++
          " " ++ why ++ .ofList (List.replicate (24 - why.length) ' ') ++ text)
    | _ => pure ()

/-- Wait for a job that the shell does not go on without; its status. -/
def finish (number : Nat) : Act Nat := do
  return statusOf (← finishMembers number)

/-! ### Starting -/

/-- Close a descriptor. -/
def close (fd : Nat) : Act Unit := do
  let _ ← ask (.close fd)

/-- Lead a descriptor to where another leads, and close that one. -/
def moveTo (source target : Nat) : Act Unit := do
  if source != target then
    let _ ← ask (.duplicate source target)
    close source

/-- From now on ignore a signal, whatever a script says. -/
def ignoreAlways (signal : Nat) : Act Unit := do
  let _ ← ask (.respond signal .ignore)
  modify fun s => { s with ignoredFirst := signal :: s.ignoredFirst }

/-- What a copy of the shell forgets: what is done on signals that are not ignored, and all jobs. -/
def beginAnew : Act Unit := do
  let s ← get
  for (signal, action) in s.traps do
    if signal != 0 && signal ≤ lastSignal && action != "" && !s.ignoredFirst.contains signal then
      let _ ← ask (.respond signal .default)
  let stays : Nat × String → Bool := fun (n, action) =>
    action == "" || (s.modes.failureTraps && n = Event.onFailure) ||
      (s.modes.commandTraps && (n = Event.beforeCommands || n = Event.onReturn))
  set { s with traps := s.traps.filter stays, pending := [], jobs := [], kept := [] }

/-- Start a process of a job that does something in a copy of the shell. In the background nothing is
read from the terminal, and it cannot interrupt. -/
def start (inner : Inner) (job : Option Nat) (background : Bool) (act : Act Unit) : Act Nat := do
  let s ← get
  let isFirst := match s.jobs.find? fun j => some j.number == job with
    | some j => j.members.isEmpty
    | none => true
  let child : Act Unit := do
    beginAnew
    if background then
      ignoreAlways 2
      ignoreAlways 3
      if isFirst then
        close 0
        let _ ← ask (.openFile "/dev/null" { reads := true })
    act
  let process ← ExceptT.lift (StateT.lift (Doing.fork (processOf inner s child)))
  match job with
  | some number => do
    changeJob number fun j => { j with members := j.members ++ [{ process }] }
    if background then
      modify fun s =>
        let (current, others) := s.jobs.partition (·.number == number)
        { s with lastJob := some process, jobs := current ++ others }
  | none => pure ()
  return process

/-- Is anything done on a signal, or at the end? -/
def hasTraps : Act Bool :=
  return (← get).traps.any (·.2 != "")

/-- Do something in a process of its own and wait for it; its status. How it has ended is told with a text. -/
def apart (inner : Inner) (text : String) (act : Act Unit) : Act Nat := do
  let job ← newJob
  let _ ← start inner (some job) false act
  let members ← finishMembers job
  tellEnd text members
  return statusOf members

/-! ### Output -/

/-- Read a descriptor to its end. -/
def readAll (fd : Nat) : Nat → List String → Act String
  | 0, pieces => return String.join pieces.reverse
  | fuel + 1, pieces => do
    match ← ask (.read fd 65536) with
    | .ok "" | .error _ => return String.join pieces.reverse
    | .ok piece => readAll fd fuel (piece :: pieces)

/-- What a command writes to standard output. A file that is led to standard input and nothing else is
what it holds. -/
def outputOf (inner : Inner) (c : Command) : Act String := do
  let isExtended := (← get).dialect = .extended
  let jobs := (← get).jobs
  let ended : Manner := { last := true, replacing := .counted }
  match c with
  | .nothing => return ""
  | c => do
    let (source, sink) ← ask .pipe
    let job ← newJob
    let _ ← start inner (some job) false do
      close source
      moveTo sink 1
      if isExtended then
        modify fun s =>
          { s with
            jobs, isOutput := true
            modes := { s.modes with stopOnFailure := s.modes.stopOnFailure && s.toggles.contains "inherit_errexit" }
            traceDepth := s.traceDepth + 1, subshells := s.subshells + 1 }
      match c with
      | .simple line [] [] [.file 0 .input w] =>
        if isExtended then
          inner.run ended (.simple line [] [[.plain "cat".toList]] [.file 0 .input w])
        else inner.run ended c
      | c => inner.run ended c
    close sink
    let text ← readAll source waitLimit []
    close source
    let outputStatus ← finish job
    modify fun s => { s with outputStatus, status := if isExtended then outputStatus else s.status }
    return text

/-- The highest descriptor that a channel gets. -/
def channelTop : Nat := 63

/-- Start a script, whose output is read or whose input is written, and give the path to do so. -/
def channel (inner : Inner) (reads : Bool) (c : Command) : Act String := do
  let (source, sink) ← ask .pipe
  let used := (← get).channels
  let fd := ((List.range 40).map (channelTop - ·)).find? fun n => !used.contains n
  let fd := fd.getD channelTop
  let (own, other) := if reads then (source, sink) else (sink, source)
  let _ ← start inner none true do
    close own
    moveTo other (if reads then 1 else 0)
    modify fun s => { s with subshells := s.subshells + 1 }
    inner.run { last := true, replacing := .counted } c
  close other
  let _ ← ask (.duplicate own fd)
  close own
  modify fun s => { s with channels := fd :: s.channels }
  return "/dev/fd/" ++ toString fd

/-- What is done with the scripts in words. In a prompt that a prompt holds, nothing is done. -/
def scripts (inner : Inner) : Expansion.Scripts :=
  let plain : Expansion.Scripts :=
    { output := outputOf inner, channel := channel inner, prompt := fun text => return text }
  { plain with prompt := Extended.promptText plain }

end Process

end Ensemble.Shell

/-! ### Telling commands

**Telling commands before they are run**, if that is wanted. A mark stands before each; its first character is
repeated where scripts are run inside of one another.
-/

namespace Ensemble.Shell.Extended

/-- What does nothing with the scripts in words. -/
def noScripts : Expansion.Scripts where
  output _ := return ""
  channel _ _ := return ""
  prompt text := return text

/-- Write a line before which the mark of a traced command stands, without running any script in the mark. -/
def traceWith (run : Expansion.Scripts) (text : String) : Act Unit := do
  let s ← get
  if s.modes.traceCommands && !s.inPrompt then
    modify fun s => { s with inPrompt := true }
    let mark ← promptText run ((s.value? "PS4").getD "")
    modify fun s => { s with inPrompt := false }
    let mark :=
      match mark.toList with
      | c :: cs => List.replicate (s.traceDepth + 1) c ++ cs
      | [] => []
    let fd := (((s.value? "BASH_XTRACEFD").getD "").toNat?).getD 2
    let line := String.ofList mark ++ text ++ "\n"
    let _ ← writeAll fd (line.length + 1) line

def traceLine (text : String) : Act Unit :=
  traceWith noScripts text

end Ensemble.Shell.Extended
