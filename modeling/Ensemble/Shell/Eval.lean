import Ensemble.Shell.Apart
import Ensemble.Shell.Extended.Compound

/-!
# Ensemble.Shell.Eval

**Running commands.** `Eval.command` runs one, given a way to run those inside of it; `Eval.inner` ties the
two together. What a failure means is decided here: where no one asks for the status, the shell can end with
it.
-/

namespace Ensemble.Shell.Eval

/-! ### Choices -/

/-- The command of the first arm that has a pattern which matches. -/
def chosen (inner : Inner) (subject : List Char) :
    List (List Word × Command × ArmEnd) → Act (Option Command)
  | [] => return none
  | (patterns, c, _) :: arms => do
    let found ← patterns.findM? fun w => do
      return Pattern.isMatch (← Expansion.pattern (Process.scripts inner) w) subject
    if found.isSome then return some c else chosen inner subject arms

/-- Run the arm with a pattern that matches a word. -/
def select (inner : Inner) (manner : Manner) (line : Nat) (subject : Word)
    (arms : List (List Word × Command × ArmEnd)) : Act Unit := do
  modify fun s => { s with line }
  let text ← Expansion.text (Process.scripts inner) { home := true } subject
  match ← chosen inner text.toList arms with
  | none | some .nothing => setStatus 0
  | some c => inner.run manner c

/-! ### Failures -/

/-- Is a failure of the command one at which the shell can end? -/
def isChecked : Command → Bool
  | .simple .. | .pipeline .. | .subshell .. | .background .. | .condition .. | .arithmetic .. => true
  | _ => false

/-- Look at how a command has ended: if it has failed where that counts, the shell can end. -/
def check (inner : Inner) (manner : Manner) : Act Unit := do
  let s ← get
  if !manner.tested && s.status != 0 then
    match s.dialect with
    | .plain => if s.modes.stopOnFailure then throw .exit
    | .extended =>
      if s.skip.isNone then
        Extended.onEvent inner Event.onFailure
        if s.modes.stopOnFailure then throw .exit

/-! ### All commands -/

/-- Where a function stands that is defined now. -/
def sourceHere (s : Shell) : String :=
  match s.called.find? (·.source != "") with
  | some c => c.source
  | none =>
    if s.isArgument then "environment" else if s.modes.fromInput then "main" else s.name

/-- Define a function. -/
def define (name : String) (body : Command) : Act Unit :=
  modify fun s =>
    { s with
      functions := (name, body) :: s.functions.filter (·.1 != name), status := 0
      functionSources := (name, sourceHere s) :: s.functionSources.filter (·.1 != name) }

/-- Run a loop over words. -/
def each (inner : Inner) (manner : Manner) (line : Nat) (name : String) (words : List Word)
    (body : Command) : Act Unit := do
  modify fun s => { s with line }
  let texts ← Expansion.texts (Process.scripts inner) words
  Loop.looping (Loop.roundsOver inner manner name body texts 0)

/-- Run a command under redirections. -/
def redirected (inner : Inner) (manner : Manner) (line : Nat) (body : Command)
    (redirects : List Redirect) : Act Unit := do
  modify fun s => { s with line }
  let aims ← Redirection.aims inner redirects
  let status := Redirection.failureStatus (← get)
  let failed : Act Unit := do
    setStatus status
    if (← get).dialect = .extended then check inner manner
  Redirection.under inner false aims failed fun _ => inner.run { tested := manner.tested } body

/-- Run a command, before it is looked at how it has ended. -/
def body (inner : Inner) (manner : Manner) (d : Dialect) : Command → Act Unit
  | .nothing => return ()
  | .simple line assigns words redirects =>
    match d with
    | .plain => Simple.simple inner manner line assigns words redirects
    | .extended => Extended.simple inner manner line assigns words redirects
  | .define _ name body => define name body
  | .redirected line body redirects => redirected inner manner line body redirects
  | .subshell line body redirects => Apart.subshell inner manner line body redirects
  | .background line body redirects => Apart.background inner line body redirects
  | .pipeline commands inBackground => Apart.pipeline inner manner commands inBackground
  | .negated c => do
    inner.run { tested := true } c
    let s ← get
    if s.skip.isNone then setStatus (if s.status = 0 then 1 else 0)
  | .also a b => do
    inner.run { tested := true } a
    let s ← get
    if s.status = 0 && s.skip.isNone then inner.run manner b
  | .either a b => do
    inner.run { tested := true } a
    let s ← get
    if s.status != 0 && s.skip.isNone then inner.run manner b
  | .sequence a b => do
    inner.run { tested := manner.tested } a
    if (← get).skip.isNone then inner.run manner b
  | .grouped c => inner.run { manner with replacing := .never } c
  | .choice test yes no => do
    inner.run { tested := true } test
    let s ← get
    if s.skip.isNone then
      match if s.status = 0 then yes else no with
      | .nothing => setStatus 0
      | c => inner.run { manner with replacing := .never } c
  | .loop untilTrue test body =>
    Loop.looping (Loop.rounds inner manner untilTrue test body Loop.roundLimit 0)
  | .each line name words body =>
    match d with
    | .plain => each inner manner line name words body
    | .extended => Extended.each inner manner line name words body
  | .select line subject arms =>
    match d with
    | .plain => select inner manner line subject arms
    | .extended => Extended.select inner manner line subject arms
  | .condition line test => Extended.condition inner line test
  | .arithmetic line w => Extended.arithmetic inner line w
  | .counted line start test step body => Extended.counted inner manner line start test step body
  | .menu line name words body => Extended.menu inner manner line name words body
  | .timed plain c => Extended.timed inner manner plain c

/-- Keep the status of a command in mind that is a pipeline by itself. -/
def keepStatus : Command → Act Unit
  | .subshell line body redirects =>
    modify fun s =>
      { s with
        pipeStatuses := [s.status]
        running := if s.inTrap then s.running else .subshell line body redirects }
  | .simple .. | .condition .. | .arithmetic .. =>
    modify fun s => { s with pipeStatuses := [s.status] }
  | _ => return ()

/-- Run a command. If it fails where a failure counts, the shell can end. -/
def command (inner : Inner) (manner : Manner) (c : Command) : Act Unit := do
  let onlyRead := (← get).modes.onlyRead
  let isNothing := match c with | .nothing => true | _ => false
  if !onlyRead && !isNothing then
    serveTraps inner
    body inner manner (← get).dialect c
    keepStatus c
  serveTraps inner
  if !onlyRead && isChecked c then check inner manner
  if manner.last then throw .exit

/-- Run a command with so many levels of others inside. -/
def runAt (launch : Launch) : Nat → Manner → Command → Act Unit
  | 0, _, _ => throw .exhausted
  | n + 1, manner, c => command ⟨runAt launch n, launch⟩ manner c

/-- How many levels of commands a shell can hold. -/
def depthLimit : Nat := 100000

/-- The ways on from a command, given the way to go on as another program. -/
def inner (launch : Launch) : Inner :=
  ⟨runAt launch depthLimit, launch⟩

end Ensemble.Shell.Eval
