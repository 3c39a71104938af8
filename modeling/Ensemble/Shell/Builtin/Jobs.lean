import Ensemble.Shell.Builtin.Basic
import Ensemble.Shell.Process

/-!
# Ensemble.Shell.Builtin.Jobs

Commands on **processes and signals**: waiting for jobs and listing them, sending signals, and what is
done when one comes.
-/

namespace Ensemble.Shell.Builtin

/-! ### Jobs -/

/-- The job that a name behind a percent sign stands for. -/
def jobNamed (name : String) : Act Job := do
  let jobs := (← get).jobs
  let orElse (told : String) (job : Option Job) : Act Job :=
    match job with
    | some j => return j
    | none => giveUp told
  match name.toList with
  | ['%'] | ['%', '%'] | ['%', '+'] => orElse "No current job" jobs[0]?
  | ['%', '-'] => orElse "No previous job" jobs[1]?
  | '%' :: cs =>
    orElse ("No such job: " ++ name) (((String.ofList cs).toNat?).bind fun n =>
      jobs.find? (·.number == n))
  | _ => giveUp ("No such job: " ++ name)

/-- Take a job to the foreground or background, which only a terminal could allow. -/
def moveJob : Own := .withOptions "" "" fun g => do
  match g.operands with
  | [] => do
    if (← get).jobs.isEmpty then giveUp "No current job"
    giveUp "job (null) not created under job control"
  | name :: _ => do
    let _ ← jobNamed name
    giveUp ("job " ++ name ++ " not created under job control")

/-- What a job is doing. -/
def jobState (j : Job) : String :=
  if !j.isDone then "Running"
  else
    match (j.members.getLast?).bind (·.ending) with
    | some (.killed n) => (deathNotice n).getD (signalDescription n)
    | some (.exited 0) | none => "Done"
    | some (.exited n) => "Done(" ++ toString n ++ ")"
where
  /-- The words for signals that no one is told of. -/
  signalDescription : Nat → String
    | 2 => "Interrupt"
    | _ => "Broken pipe"

/-- The lines that tell of a job, whose mark is `+`, `-` or blank. -/
def jobLines (withProcesses : Bool) (mark : Char) (j : Job) : String :=
  let lead := "[" ++ toString j.number ++ "] " ++ mark.toString ++ " "
  let pad (s : String) : String := s ++ .ofList (List.replicate (max 1 (33 - s.length)) ' ')
  match j.members with
  | [] => ""
  | first :: rest =>
    if withProcesses then
      let indent := String.ofList (List.replicate lead.length ' ')
      pad (lead ++ toString first.process ++ " " ++ jobState j) ++
        String.join (rest.map fun m =>
          let line := " |\n" ++ indent ++ toString m.process ++ " "
          line ++ .ofList (List.replicate (max 1 (33 - (line.length - 3))) ' ')) ++ "\n"
    else pad (lead ++ jobState j) ++ String.join (rest.map fun _ => " | ") ++ "\n"

/-- List jobs. Those that are done are forgotten. -/
def jobs : Own := .withOptions "lp" "" fun g => do
  Process.collect Process.waitLimit
  let shown ← if g.operands.isEmpty then pure (← get).jobs else g.operands.mapM jobNamed
  for j in shown do
    let all := (← get).jobs
    let mark :=
      if all[0]?.any (·.number == j.number) then '+'
      else if all[1]?.any (·.number == j.number) then '-'
      else ' '
    if g.last? == some 'p' then
      say (((j.members.head?).map fun m => toString m.process).getD "" ++ "\n")
    else
      say (jobLines (g.last? == some 'l') mark j)
      if j.isDone then
        modify fun s => { s with jobs := s.jobs.filter (·.number != j.number) }
  return 0

/-! ### Waiting -/

/-- The status of a wait that a signal has cut short. -/
def interruptedStatus : Act Nat := do
  let came ← ask .noted
  modify fun s => { s with pending := s.pending ++ came.filter (!s.pending.contains ·) }
  return 128 + (came.getLast?.getD 0)

/-- Mark jobs as waited for, up to the first that still runs; is there one? -/
def waitMarks : List Job → List Job × Bool
  | [] => ([], false)
  | j :: js =>
    if j.isDone then
      let (js, runs) := waitMarks js
      ({ j with waited := true } :: js, runs)
    else (j :: js, true)

/-- Wait for all jobs. -/
def waitAll : Nat → Act Nat
  | 0 => return 0
  | fuel + 1 => do
    let (jobs, runs) := waitMarks (← get).jobs
    modify fun s => { s with jobs }
    if !runs then return 0
    match ← ask (.wait none true true) with
    | .ended process ending => do
      let _ ← Process.recordEnd process ending
      waitAll fuel
    | .interrupted => interruptedStatus
    | _ => return 0

/-- Wait for the processes and jobs that are named, one after the other. -/
def waitEach : Nat → List String → Act Nat
  | status, [] => return status
  | _, name :: names => do
    let job ←
      if name.toList.head? == some '%' then some <$> jobNamed name
      else do
        let n ← numberOf name
        let jobs := (← get).jobs
        pure (jobs.find? fun j => j.members.getLast?.any (·.process == n))
    match job with
    | none => waitEach 127 names
    | some j => do
      if ← Process.await j.number true Process.waitLimit then
        Process.changeJob j.number ({ · with waited := true })
        let s ← get
        let status := ((s.jobs.find? (·.number == j.number)).map fun j => Process.statusOf j.members).getD 0
        waitEach status names
      else interruptedStatus

def wait : Own := .withOptions "" "" fun g => do
  if g.operands.isEmpty then waitAll Process.waitLimit else waitEach 127 g.operands

def times : Own := fun _ => do
  say "0m0.000000s 0m0.000000s\n0m0.000000s 0m0.000000s\n"
  return 0

/-! ### Signals -/

/-- A signal that can be sent, by its number or name. -/
def sentSignal? (name : String) : Option Nat :=
  match signalOf? name with
  | some 0 => if name.toList.all Char.isDigit then some 0 else none
  | n => n

/-- Send a signal to a process, or to a job. No job is a group of processes. -/
def send (signal : Nat) (target : String) : Act Nat := do
  let process : Option Int ←
    match target.toList with
    | '%' :: _ => do
      let _ ← jobNamed target
      pure none
    | '-' :: cs => do
      let n ← numberOf (.ofList cs)
      pure (some (-(n : Int)))
    | _ => do
      let n ← numberOf target
      pure (some n)
  let sent : Except MachineFault Unit ←
    match process with
    | some n => ask (.signal n signal)
    | none => pure (.error .noProcess)
  match sent with
  | .ok () => return 0
  | .error e => do
    complainAt (e.message ++ "\n")
    return 1

/-- Send a signal to all targets. -/
def sendAll (signal : Nat) : List String → Act Nat
  | [] => return 0
  | target :: targets => do
    let first ← send signal target
    let rest ← sendAll signal targets
    return max first rest

/-- Write the names of signals: of all, or of one that an exit status or a number tells. -/
def listSignals : List String → Act Nat
  | [] => do
    say ("0\n" ++ String.join ((List.range lastSignal).map fun n => signalName (n + 1) ++ "\n"))
    return 0
  | a :: _ => do
    let n ← numberOf a
    let n := if 128 < n then n - 128 else n
    if n = 0 || lastSignal < n then giveUp ("invalid signal number or exit status: " ++ a)
    say (signalName n ++ "\n")
    return 0

def kill : Own := fun args => do
  let misused : Act Nat := giveUp
    "Usage: kill [-s sigspec | -signum | -sigspec] [pid | job]... or\nkill -l [exitstatus]"
  let sendTo (signal : Nat) (targets : List String) : Act Nat :=
    if targets.isEmpty then misused else sendAll signal targets
  let asOptions : Own := .withOptions "l" "s" fun g => do
    let signal ←
      match g.value? 's' with
      | none => pure none
      | some name =>
        match sentSignal? name with
        | some n => pure (some n)
        | none => giveUp ("invalid signal number or name: " ++ name)
    if g.has 'l' then
      if signal.isSome && !g.operands.isEmpty then misused else listSignals g.operands
    else sendTo (signal.getD 15) g.operands
  match args with
  | [] => misused
  | a :: targets =>
    match a.toList with
    | '-' :: cs =>
      match sentSignal? (.ofList cs) with
      | some n => sendTo n targets
      | none => asOptions args
    | _ => sendTo 15 args

/-- How a process takes a signal on which an action is done. -/
def responseTo (signal : Nat) : Option String → Response
  | none => .default
  | some "" => if signal = 17 then .default else .ignore
  | some _ => .note

/-- Set or reset what is done on a signal. What was ignored when the shell began stays so. -/
def setTrap (action : Option String) (signal : Nat) : Act Unit := do
  let s ← get
  if signal != 0 && signal ≤ lastSignal && !s.ignoredFirst.contains signal then
    let before ← ask (.respond signal (responseTo signal action))
    if before = .ignore && s.traps.lookup signal != some "" then
      let _ ← ask (.respond signal .ignore)
      modify fun s => { s with ignoredFirst := signal :: s.ignoredFirst }
  modify fun s =>
    let others := s.traps.filter (·.1 != signal)
    { s with traps := match action with | some a => (signal, a) :: others | none => others }

/-- Set or reset what is done on signals, up to a name that is none of a signal. -/
def setTraps (action : Option String) : List String → Act Nat
  | [] => return 0
  | name :: names => do
    match signalOf? name with
    | none => do
      complain ("trap: " ++ name ++ ": bad trap")
      return 1
    | some n => do
      setTrap action n
      setTraps action names

def trap : Own := .withOptions "" "" fun g => do
  let isNumber (a : String) : Bool := a != "" && a.toList.all Char.isDigit && (signalOf? a).isSome
  match g.operands with
  | [] => do
    let shown := (← get).traps.mergeSort fun a b => decide (a.1 ≤ b.1)
    say (String.join (shown.map fun (n, action) =>
      "trap -- " ++ inQuotes action ++ " " ++ (if n = 0 then "EXIT" else signalName n) ++ "\n"))
    return 0
  | [name] => setTraps none [name]
  | action :: names =>
    if isNumber action then setTraps none (action :: names)
    else setTraps (if action = "-" then none else some action) names

end Ensemble.Shell.Builtin
