import Ensemble.Shell.Builtin.Jobs
import Ensemble.Shell.Extended.Builtin.Basic
import Ensemble.Shell.Extended.Listing

/-!
# Ensemble.Shell.Extended.Builtin.Jobs

Commands on **processes and signals**: waiting for jobs and listing them, sending signals, and what is
done when one comes, on failures, and before commands.
-/

namespace Ensemble.Shell.Extended.Builtin

/-! ### Jobs -/

/-- The job that a name behind a percent sign stands for. -/
def jobNamed? (s : Shell) (name : String) : Option Job :=
  match name.toList with
  | ['%'] | ['%', '%'] | ['%', '+'] => s.jobs[0]?
  | ['%', '-'] => s.jobs[1]?
  | '%' :: cs =>
    match (String.ofList cs).toNat? with
    | some n => s.jobs.find? (·.number == n)
    | none => s.jobs.find? fun j => cs.isPrefixOf j.text.toList
  | _ => none

def noSuchJob (name : String) : Act Unit :=
  complainAt (name ++ ": no such job")

/-- The line that tells of a job. -/
def jobLine (s : Shell) (withProcess : Bool) (j : Job) : String :=
  let running := s.jobs.filter (!·.isDone)
  let mark :=
    if running[0]?.any (·.number == j.number) then "+"
    else if running[1]?.any (·.number == j.number) then "-"
    else " "
  let process := match j.members.head? with | some m => toString m.process | none => ""
  let process := .ofList (List.replicate (5 - process.length) ' ') ++ process
  "[" ++ toString j.number ++ "]" ++ mark ++ (if withProcess then " " ++ process ++ " " else "  ") ++
    "Running                 " ++ j.text ++ " &\n"

/-- List the jobs that run. -/
def jobs : Own := withOptions "lnprsx" "" fun g => do
  Process.collect Process.waitLimit
  let s ← get
  let tell (j : Job) : Act Unit := do
    if !j.isDone then
      if g.has 'p' then say (((j.members.head?).map fun m => toString m.process).getD "" ++ "\n")
      else say (jobLine s (g.has 'l') j)
  if g.operands.isEmpty then
    (s.jobs.mergeSort fun a b => decide (a.number ≤ b.number)).forM tell
    return 0
  eachOf g.operands fun name => do
    match jobNamed? s name with
    | some j => do
      tell j
      return true
    | none => do
      noSuchJob name
      return false

/-- Take a job to the foreground or background, which only a terminal could allow. -/
def moveJob : Own := fun _ => do
  complainAt "no job control"
  return 1

def disown : Own := withOptions "ahr" "" fun g => do
  let s ← get
  if g.has 'a' || g.has 'r' then
    set { s with jobs := [] }
    return 0
  let names := if g.operands.isEmpty then ["%%"] else g.operands
  eachOf names fun name => do
    let s ← get
    let job := jobNamed? s name <|> s.jobs.find? fun j => j.members.any fun m => toString m.process == name
    match job with
    | some j => do
      set { s with jobs := s.jobs.filter (·.number != j.number) }
      return true
    | none => do
      noSuchJob (if g.operands.isEmpty then "current" else name)
      return false

/-! ### Waiting -/

/-- Wait for a job, and give its status. -/
def waitFor (j : Job) : Act Nat := do
  if ← Process.await j.number true Process.waitLimit then
    Process.changeJob j.number ({ · with waited := true })
    let s ← get
    return ((s.jobs.find? (·.number == j.number)).map fun j => Process.statusOf j.members).getD 0
  else Shell.Builtin.interruptedStatus

/-- Wait for the process or job that is named. -/
def waitNamed (name : String) : Act Nat := do
  let s ← get
  if name.toList.head? == some '%' then
    match jobNamed? s name with
    | some j => waitFor j
    | none => do
      noSuchJob name
      return 127
  else
    match name.toNat? with
    | some n =>
      match s.jobs.find? fun j => j.members.any (·.process == n) with
      | some j => waitFor j
      | none => do
        complainAt ("pid " ++ name ++ " is not a child of this shell")
        return 127
    | none => do
      complainAt ("\x60" ++ name ++ "': not a pid or valid job spec")
      return 1

/-- Wait until one of the jobs is done that no one has waited for. -/
def waitNext : Nat → Act Nat
  | 0 => return 127
  | fuel + 1 => do
    let s ← get
    match s.jobs.reverse.find? fun j => j.isDone && !j.waited with
    | some j => do
      Process.changeJob j.number ({ · with waited := true })
      return Process.statusOf j.members
    | none =>
      if s.jobs.all (·.waited) then return 127
      match ← ask (.wait none true true) with
      | .ended process ending => do
        let _ ← Process.recordEnd process ending
        waitNext fuel
      | .interrupted => Shell.Builtin.interruptedStatus
      | _ => return 127

def wait : Own := withOptions "fn" "p" fun g => do
  let status ←
    if g.has 'n' then waitNext Process.waitLimit
    else if g.operands.isEmpty then Shell.Builtin.waitAll Process.waitLimit
    else do
      let statuses ← g.operands.mapM waitNamed
      pure (statuses.getLastD 0)
  if g.operands.isEmpty && !g.has 'n' then
    modify fun s => { s with jobs := s.jobs.filter (!·.isDone) }
  return status

def times : Own := fun _ => do
  say "0m0.000s 0m0.000s\n0m0.000s 0m0.000s\n"
  return 0

/-! ### Signals -/

/-- The name of a signal, without what all names begin with. -/
def bareName (name : String) : String :=
  let upper := name.toUpper
  if "SIG".toList.isPrefixOf upper.toList then .ofList (upper.toList.drop 3) else upper

/-- What can be waited for, by its name or number. -/
def eventOf? (name : String) : Option Nat :=
  match bareName name with
  | "DEBUG" => some Event.beforeCommands
  | "ERR" => some Event.onFailure
  | "RETURN" => some Event.onReturn
  | bare =>
    if name.toList.all Char.isDigit then signalOf? name
    else if bare = "EXIT" && bare != name.toUpper then none
    else signalOf? bare

/-- The name of what can be waited for. -/
def eventName (n : Nat) : String :=
  if n = 0 then "EXIT"
  else if n = Event.beforeCommands then "DEBUG"
  else if n = Event.onFailure then "ERR"
  else if n = Event.onReturn then "RETURN"
  else "SIG" ++ signalName n

/-- All signals in a table of five columns. -/
def signalTable : String :=
  let known := (List.range lastSignal).map (· + 1) |>.filter fun n => n != 32 && n != 33
  let cell (n : Nat) : String :=
    (if n < 10 then " " else "") ++ toString n ++ ") SIG" ++ (if n = 16 then "STKFLT" else signalName n)
  let rows := (known.zipIdx).map fun (n, i) =>
    cell n ++ (if i % 5 = 4 then "\n" else "\t")
  String.join rows ++ (if known.length % 5 = 0 then "" else "\n")

/-- Tell names of signals by numbers, and numbers by names. -/
def tellSignal (a : String) : Act Bool := do
  match a.toNat? with
  | some n =>
    let n := if 128 < n then n - 128 else n
    if n ≤ lastSignal then
      say ((if n = 0 then "EXIT" else if n = 16 then "STKFLT" else signalName n) ++ "\n")
      return true
    complainAt (a ++ ": invalid signal specification")
    return false
  | none =>
    match signalOf? (bareName a) with
    | some n => do
      say (toString n ++ "\n")
      return true
    | none => do
      complainAt (a ++ ": invalid signal specification")
      return false

/-- Send a signal to a process or a job. -/
def send (signal : Nat) (target : String) : Act Bool := do
  let s ← get
  match target.toList with
  | '%' :: _ =>
    match jobNamed? s target with
    | some j => do
      for m in j.members do
        let _ ← ask (.signal m.process signal)
      return true
    | none => do
      noSuchJob target
      return false
  | _ =>
    match number? target with
    | some n =>
      match ← ask (.signal n signal) with
      | .ok () => return true
      | .error e => do
        complainAt ("(" ++ target ++ ") - " ++ e.message)
        return false
    | none => do
      complainAt (target ++ ": arguments must be process or job IDs")
      return false

def kill : Own := fun args => do
  let wrong (name : String) : Act Nat := do
    complainAt (name ++ ": invalid signal specification")
    return 1
  let sendTo (signal : Nat) (targets : List String) : Act Nat := do
    let targets := if targets.head? == some "--" then targets.drop 1 else targets
    if targets.isEmpty then showUsage
    let sent ← targets.mapM (send signal)
    return if sent.any id then 0 else 1
  let signal? (name : String) : Option Nat :=
    if name.toList.all Char.isDigit then (name.toNat?).filter (· ≤ lastSignal) else signalOf? (bareName name)
  match args with
  | [] => showUsage
  | a :: rest =>
    match a.toList with
    | ['-', 'l'] | ['-', 'L'] => do
      if rest.isEmpty then
        say signalTable
        return 0
      eachOf rest tellSignal
    | ['-', 's'] | ['-', 'n'] =>
      match rest with
      | [] => do
        complainAt (a ++ ": option requires an argument")
        return 1
      | name :: targets =>
        match signal? name with
        | some n => sendTo n targets
        | none => wrong name
    | ['-', '-'] => sendTo 15 rest
    | '-' :: cs =>
      match signal? (.ofList cs) with
      | some n => sendTo n rest
      | none => wrong (.ofList cs)
    | _ => sendTo 15 args

/-! ### Traps -/

/-- Traps as commands could set them. -/
def tellTraps (wanted : Nat → Bool) : Act Unit := do
  let shown := (← get).traps.mergeSort fun a b => decide (a.1 ≤ b.1)
  for (n, action) in shown do
    if wanted n then say ("trap -- " ++ Quoting.single action ++ " " ++ eventName n ++ "\n")

/-- Set or reset what is done on signals. -/
def setTraps (action : Option String) (names : List String) : Act Nat :=
  eachOf names fun name => do
    match eventOf? name with
    | some n => do
      Shell.Builtin.setTrap action n
      return true
    | none => do
      complainAt (name ++ ": invalid signal specification")
      return false

def trap : Own := withOptions "lp" "" fun g => do
  if g.has 'l' then
    say signalTable
    return 0
  match g.operands with
  | [] => do
    tellTraps fun _ => true
    return 0
  | action :: names =>
    if g.has 'p' then
      eachOf g.operands fun name => do
        match eventOf? name with
        | some n => do
          tellTraps (· == n)
          return true
        | none => do
          complainAt (name ++ ": invalid signal specification")
          return false
    else if names.isEmpty then
      if (eventOf? action).isSome then setTraps none [action] else showUsage
    else if action != "" && action.toList.all Char.isDigit && (signalOf? action).isSome then
      setTraps none g.operands
    else setTraps (if action = "-" then none else some action) names

end Ensemble.Shell.Extended.Builtin
