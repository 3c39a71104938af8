import Ensemble.Shell.Extended.Simple
import Ensemble.Shell.Simple

/-!
# Ensemble.Shell.Apart

**Commands in processes of their own**: subshells, commands in the background, and pipelines, each of whose
commands reads what the one before writes.
-/

namespace Ensemble.Shell.Apart

/-- Do something under redirections that are never led back; if one fails, the process ends. -/
def redirected (inner : Inner) (aims : List (Act (Nat × Aim))) (act : Act Unit) : Act Unit := do
  match ← Redirection.redirectAll inner false [] aims with
  | (_, .ok true) => act
  | (_, .ok false) => fail (Redirection.failureStatus (← get))
  | (_, .error e) => throw e

/-- Do something one copy of the shell further away from the first. -/
def copied (act : Act Unit) : Act Unit := do
  modify fun s => { s with subshells := s.subshells + 1 }
  act

/-- Run a command in a process of its own, or in this one if it ends with that. -/
def subshell (inner : Inner) (manner : Manner) (line : Nat) (body : Command)
    (redirects : List Redirect) : Act Unit := do
  modify fun s => { s with line }
  let aims ← Redirection.aims inner redirects
  let act :=
    copied (redirected inner aims (inner.run { manner with last := true, replacing := .counted } body))
  let s ← get
  let replaces := s.dialect = .plain || (manner.replacing = .counted && s.subshells != 0)
  if manner.last && replaces && !(← Process.hasTraps) then
    Process.beginAnew
    act
  else
    setStatus (← Process.apart inner (Extended.Listing.command {} (.subshell line body redirects)) act)

/-- Is this a command that goes on in a copy of the shell by itself? -/
def isSimple : Command → Bool
  | .simple .. => true
  | _ => false

/-- Keep a command in mind that is simple and going to run in a process of its own. -/
def foresee (inner : Inner) (c : Command) : Act Unit := do
  if isSimple c && (← get).dialect = .extended then Extended.beforeCommand inner c

/-- Run a command in the background. -/
def background (inner : Inner) (line : Nat) (body : Command) (redirects : List Redirect) :
    Act Unit := do
  modify fun s => { s with line }
  foresee inner body
  let aims ← Redirection.aims inner redirects
  let job ← Process.newJob
  Process.changeJob job fun j => { j with text := Extended.Listing.command {} body }
  let _ ← Process.start inner (some job) true <|
    copied (redirected inner aims (inner.run { last := true, replacing := .counted } body))
  setStatus 0

/-- Keep in mind where the program is that a command runs. -/
def track : Command → Act Unit
  | .simple _ _ (w :: _) _ => do
    if (← get).dialect = .plain then
      match Word.plainText? w with
      | some cs =>
        if isName cs then
          let _ ← Lookup.meaning true false none (.ofList cs)
      | none => pure ()
  | _ => pure ()

/-- Jobs can still be asked for in the extended dialect, where the events of the command are those of the
shell that it was started by. -/
def remember (jobs : List Job) : Act Unit :=
  modify fun s =>
    if s.dialect = .extended then { s with jobs, traps := s.traps.filter (·.1 ≤ lastSignal) } else s

/-- Run the last command of a pipeline in this shell. -/
def runHere (inner : Inner) (manner : Manner) (source : Option Nat) (c : Command) : Act Unit := do
  match source with
  | none => inner.run { tested := manner.tested } c
  | some fd => do
    let before ← Redirection.setAside 0 false
    Process.moveTo fd 0
    settingRight (Redirection.leadBack false [(0, before)]) (inner.run { tested := manner.tested } c)

/-- Start the commands of a pipeline: each reads what the one before writes. The last can be run in this
shell. -/
def startPipeline (inner : Inner) (manner : Manner) (job : Nat) (inBackground lastHere : Bool) :
    Option Nat → List Command → Act Unit
  | _, [] => return ()
  | source, [c] => do
    track c
    if lastHere then runHere inner manner source c
    else
      foresee inner c
      let jobs := (← get).jobs
      let _ ← Process.start inner (some job) inBackground do
        match source with
        | some fd => if 0 < fd then Process.moveTo fd 0
        | none => pure ()
        if isSimple c then remember jobs
        (if isSimple c then id else copied) (inner.run { manner with last := true, replacing := .piped } c)
      source.forM Process.close
  | source, c :: cs => do
    track c
    foresee inner c
    let jobs := (← get).jobs
    let (next, sink) ← ask .pipe
    let _ ← Process.start inner (some job) inBackground do
      Process.close next
      match source with
      | some fd => if 0 < fd then Process.moveTo fd 0
      | none => pure ()
      if 1 < sink then Process.moveTo sink 1
      if isSimple c then remember jobs
      (if isSimple c then id else copied) (inner.run { manner with last := true, replacing := .piped } c)
    source.forM Process.close
    Process.close sink
    startPipeline inner manner job inBackground lastHere (some next) cs

/-- The status of a pipeline: that of its last command, or of the last that failed. -/
def pipelineStatus (anyFails : Bool) (statuses : List Nat) : Nat :=
  if anyFails then (statuses.reverse.find? (· != 0)).getD 0 else statuses.getLastD 0

/-- Run the commands of a pipeline. -/
def pipeline (inner : Inner) (manner : Manner) (commands : List Command) (inBackground : Bool) :
    Act Unit := do
  let s ← get
  let lastHere := s.toggles.contains "lastpipe" && !inBackground
  let job ← Process.newJob
  if inBackground then
    Process.changeJob job fun j => { j with text := Extended.Listing.command {} (.pipeline commands false) }
  startPipeline inner manner job inBackground lastHere none commands
  if inBackground then setStatus 0
  else
    let here := (← get).status
    let members ← Process.finishMembers job
    if !lastHere then
      Process.tellEnd (Extended.Listing.command {} (.pipeline commands false)) members
    let statuses := Process.statusesOf members ++ if lastHere then [here] else []
    modify ({ · with
      pipeStatuses := statuses, status := pipelineStatus s.modes.pipelineFails statuses })

end Ensemble.Shell.Apart
