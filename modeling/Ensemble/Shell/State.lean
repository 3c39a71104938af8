import Ensemble.Machine.Call
import Ensemble.Shell.Elements
import Ensemble.Shell.Extended.Listing
import Ensemble.Shell.Modes
import Ensemble.Shell.Numeral
import Ensemble.Shell.Signal
import Ensemble.Shell.Syntax
import Ensemble.Text.Lines

/-!
# Ensemble.Shell.State

The **state** of a shell process and the small steps on it. `Act` is what a shell does: it changes
the state and asks the machine, and it may be broken off by an `Interrupt`. Where a command of the
shell's own leaves loops or functions, that is kept in the state (`Shell.skip`), for what stands
between has still to be left in order.

What is written to standard output is kept back until the command of the shell's own that writes it
is done.
-/

/-! ### Dialects

The **dialects** of the shell: a plain one, and one with rows of values, conditions between double
brackets, loops that count, and words in braces. They differ in what they call things, too.
-/

namespace Ensemble.Shell

/-- A dialect of the shell. -/
inductive Dialect
  | plain
  | extended
deriving DecidableEq, Repr

end Ensemble.Shell

/-! ### The state -/

namespace Ensemble.Shell

/-- A variable; a declared one can be without a value. -/
structure Variable where
  value : Option String := none
  exported : Bool := false
  readOnly : Bool := false
  /-- The values, if there can be many; the first of them is the value then. -/
  elements : Option Elements := none
  /-- Is what is assigned an arithmetic expression? -/
  isWhole : Bool := false
  /-- Are all letters great, or small? -/
  letters : Option Bool := none
  /-- Is the value the name of what is meant? -/
  refers : Bool := false
  /-- Can there be many values, of which none has been assigned? -/
  isBare : Bool := false
  /-- Is it traced, which means nothing? -/
  traced : Bool := false
deriving Repr

namespace Variable

def withElements (v : Variable) (e : Elements) : Variable :=
  { v with elements := some e, value := e.first, isBare := false }

/-- A value as the variable keeps it. -/
def kept (v : Variable) (value : String) : String :=
  match v.letters with
  | some true => value.toUpper
  | some false => value.toLower
  | none => value

/-- The variable with a value, which is one of many if there are many. -/
def holding (v : Variable) (value : String) : Variable :=
  let value := v.kept value
  match v.elements with
  | none => { v with value := some value }
  | some (.row items) => v.withElements (.row (Elements.putAt 0 value items))
  | some (.keyed items) => v.withElements (.keyed (Elements.putKey "0" value items))

end Variable

/-- Why what follows is passed over. -/
inductive Skip
  /-- So many loops are left. -/
  | leave (loops : Nat)
  /-- So many loops but one are left, and that one goes on with its next round. -/
  | next (loops : Nat)
  /-- The function, or the script that is read from a file, is left: with a status of its own? -/
  | function (given : Bool)
deriving DecidableEq, Repr

/-- A process of a job. -/
structure Member where
  process : Nat
  ending : Option Ending := none
deriving Repr

/-- Processes that were started together. -/
structure Job where
  number : Nat
  members : List Member := []
  /-- Has someone waited for its end? -/
  waited : Bool := false
  /-- The command, as it is listed. -/
  text : String := ""
deriving Repr

/-- Have all processes of the job ended? -/
def Job.isDone (j : Job) : Bool :=
  j.members.all (·.ending.isSome)

/-- A function that has been called, or a script that is read from a file: its name, where it stands,
and the line that it was called in. -/
structure Called where
  name : String
  source : String
  line : Nat
deriving Repr

/-- What is restored when a function is left. -/
inductive Saved
  | variable (name : String) (v : Option Variable)
  | modes (m : Modes)

/-- A shell process. -/
structure Shell where
  /-- What the shell calls itself in messages. -/
  name : String := "sh"
  /-- The command of the shell's own that is run, and that complaints are made for. -/
  speaker : Option String := none
  line : Nat := 1
  /-- The line of the script that will be read next. -/
  nextLine : Nat := 1
  /-- The process that `$$` names: the shell's own, or that of the shell it was started by. -/
  root : Nat := 0
  /-- Variables, in the order in which they were made. -/
  bindings : List (String × Variable) := []
  positional : List String := []
  functions : List (String × Command) := []
  aliases : List (String × String) := []
  /-- Commands that have been found, where, and whether they are to be looked for once more. -/
  tracked : List (String × String × Bool) := []
  /-- Texts that stand in scripts, by their numbers. -/
  documents : List (Nat × Word) := []
  nextDocument : Nat := 0
  /-- The path of the current directory, as the shell came to it. -/
  path : String := "/"
  modes : Modes := {}
  /-- What is done on a signal; on 0, when the shell ends. -/
  traps : List (Nat × String) := []
  /-- Are the traps those of the shell that this one was started by, and only told? -/
  trapsInherited : Bool := false
  /-- Signals that were ignored when the shell began; that cannot be changed. -/
  ignoredFirst : List Nat := []
  /-- Signals for which something will be done after the command that runs. -/
  pending : List Nat := []
  /-- The status before the action on a signal that is being carried out. -/
  statusBefore : Option Nat := none
  status : Nat := 0
  /-- The status of the last script whose output the command that runs has taken. -/
  outputStatus : Nat := 0
  /-- Jobs, the current one first. -/
  jobs : List Job := []
  /-- The process that was started last in the background. -/
  lastJob : Option Nat := none
  /-- What is restored when the commands that run are done, the innermost first. -/
  saved : List (List Saved) := []
  /-- The number of functions that have been called and not left. -/
  calls : Nat := 0
  /-- The number of loops around. -/
  loops : Nat := 0
  skip : Option Skip := none
  /-- The word in which the next option letter is. -/
  optionIndex : Nat := 1
  /-- Where in that word it is, if it is not at the beginning. -/
  optionOffset : Nat := 0
  /-- What is written to standard output and kept back, the last first. -/
  kept : List String := []
  /-- Why writing to standard output has failed, if it has. -/
  writeFault : Option MachineFault := none
  /-- Where complaints went before the redirections of the command that runs. -/
  errorBefore : Nat := 2
  /-- Is a prompt being expanded? -/
  inPrompt : Bool := false
  dialect : Dialect := .plain
  /-- What is being run, the innermost first. -/
  called : List Called := []
  /-- Where functions stand, by their names. -/
  functionSources : List (String × String) := []
  /-- Is the script an argument of the shell? -/
  isArgument : Bool := false
  /-- What stands before complaints about the form of a script that is no file. -/
  textLabel : Option String := none
  /-- The statuses of the commands of the last pipeline. -/
  pipeStatuses : List Nat := []
  /-- The further switches that are on. -/
  toggles : List String := []
  /-- When the shell began to count seconds. -/
  countedFrom : Int := 0
  /-- What the next random number comes from. -/
  seed : Nat := 1
  /-- How many shells this one was copied from, for their own purposes or for their output. -/
  subshells : Nat := 0
  /-- How often the first mark of a traced command is repeated. -/
  traceDepth : Nat := 0
  /-- The directories that were put aside. -/
  directories : List String := []
  /-- The channels of the command that runs. -/
  channels : List Nat := []
  /-- The commands of the shell's own that are not to be found. -/
  disabled : List String := []
  /-- How often programs have been started that are kept in mind. -/
  hits : List (String × Nat) := []
  /-- The functions that other shells get to know. -/
  exportedFunctions : List String := []
  /-- The command that runs, for what is done on failures and before commands. -/
  running : Command := .nothing
  /-- Is something done on a failure or before a command? -/
  inTrap : Bool := false
  /-- Is what the shell writes a part of a word? -/
  isOutput : Bool := false

/-- Why a shell breaks off. -/
inductive Interrupt
  /-- The shell ends. -/
  | exit
  /-- The command that is run cannot be gone on with. -/
  | failed
  /-- The line of the script that is run cannot be gone on with. -/
  | dropped
  /-- There is more in one another than a shell can hold. -/
  | exhausted
deriving DecidableEq, Repr

/-- What a shell does. -/
abbrev Act := ExceptT Interrupt (StateT Shell Doing)

namespace Shell

/-! ### Variables -/

def declared? (s : Shell) (name : String) : Option Variable :=
  s.bindings.lookup name

/-- What a name stands for, if it refers to another. -/
def target (s : Shell) (name : String) : String :=
  let rec go : Nat → String → String
    | 0, name => name
    | fuel + 1, name =>
      match s.declared? name with
      | some v => if v.refers then (v.value.map (go fuel)).getD name else name
      | none => name
  go 10 name

def value? (s : Shell) (name : String) : Option String :=
  (s.declared? (s.target name)).bind (·.value)

/-- Give a name a variable, or none. -/
def setVariable (s : Shell) (name : String) (v : Option Variable) : Shell :=
  let bindings :=
    match v with
    | none => s.bindings.filter (·.1 != name)
    | some v =>
      if (s.declared? name).isSome then
        s.bindings.map fun (n, old) => if n == name then (n, v) else (n, old)
      else s.bindings ++ [(name, v)]
  let s := { s with bindings }
  if name = "PATH" then { s with tracked := [] } else s

/-- The place that a name is dealt to, of so many. -/
def bucketOf (buckets : Nat) (name : String) : Nat :=
  let cs := name.toList
  let first := match cs with | c :: _ => c.toNat * 16 | [] => 0
  cs.foldl (fun n c => n + c.toNat) first % buckets

/-- The number of places that the names of variables are dealt to. -/
def variableBuckets : Nat := 39

/-- The bindings that a program gets which is at a path. -/
def environment (s : Shell) (path : String) : List (String × String) :=
  let bindings := s.bindings.filterMap fun (name, v) =>
    if v.exported then v.value.map (name, ·) else none
  match s.dialect with
  | .plain =>
    bindings.mergeSort fun a b =>
      decide (bucketOf variableBuckets a.1 ≤ bucketOf variableBuckets b.1)
  | .extended =>
    let others := (bindings.filter (·.1 != "_")).reverse
    let functions := s.exportedFunctions.filterMap fun name =>
      (s.functions.lookup name).map fun body =>
        ("BASH_FUNC_" ++ name ++ "%%", Extended.Listing.exported body)
    (others.mergeSort fun a b => decide (Elements.bucketOf a.1 ≤ Elements.bucketOf b.1)) ++
      functions ++ [("_", path)]

end Shell

/-- Where commands are looked for if nothing else is said. -/
def defaultSearchPath : String :=
  "/usr/local/sbin:/usr/local/bin:/usr/sbin:/usr/bin:/sbin:/bin"

/-- The separators of fields if nothing else is said. -/
def defaultSeparators : String := " \t\n"

namespace Shell

/-- A shell with the variables that every shell has. -/
def bare : Shell :=
  { bindings :=
      [("IFS", { value := some defaultSeparators }), ("PATH", { value := some defaultSearchPath }),
        ("PS1", { value := some "# " }), ("PS2", { value := some "> " }),
        ("PS4", { value := some "+ " }), ("OPTIND", { value := some "1" })] }

/-- Give a variable a value, whatever it had before. -/
def setValue (s : Shell) (exported : Bool) (name value : String) : Shell :=
  let old := (s.declared? name).getD {}
  s.setVariable name (some { old with value := some value, exported := old.exported || exported })

/-- A shell that is started with bindings. Some variables do not get their values from there. -/
def ofBindings (bindings : List String) (parent : Nat) : Shell :=
  let given := bindings.foldl (fun s b =>
    match nameAndRest? b.toList with
    | some (name, value) => s.setValue true (.ofList name) (.ofList value)
    | none => s) bare
  ((given.setValue false "IFS" defaultSeparators).setValue false "OPTIND" "1").setValue false "PPID"
    (toString parent)

end Shell

/-! ### Asking -/

/-- Ask the machine. -/
@[inline] def ask (c : Call) : Act c.Reply :=
  ExceptT.lift (StateT.lift (Doing.ask c))

/-- End at once by a signal. -/
def dieOf (signal : Nat) : Act α :=
  ExceptT.lift (StateT.lift (Doing.finish (.killed signal)))

/-- Do something, and set the state right when it is done or broken off. -/
def settingRight (right : Act Unit) (act : Act α) : Act α := do
  let result ← ExceptT.lift (m := StateT Shell Doing) act.run
  right
  match result with
  | .ok a => return a
  | .error e => throw e

/-! ### Output and failure -/

/-- Write a text to a descriptor to its end; is that possible? -/
def writeAll (fd : Nat) : Nat → String → Act (Option MachineFault)
  | 0, _ => return none
  | fuel + 1, text => do
    if text = "" then return none
    match ← ask (.write fd text) with
    | .error e => return some e
    | .ok n =>
      if text.length ≤ n then return none
      else writeAll fd fuel (.ofList (text.toList.drop n))

/-- Write out what was kept back. -/
def flush : Act Unit := do
  let kept := (← get).kept
  if kept.isEmpty then return ()
  let text := String.join kept.reverse
  modify fun s => { s with kept := [] }
  match ← writeAll 1 (text.length + 1) text with
  | some e => modify fun s => { s with writeFault := some e }
  | none => pure ()

/-- Write out the lines that were kept back, and keep what stands behind them. -/
def flushLines : Act Unit := do
  let text := String.join (← get).kept.reverse
  let rest := (text.toList.reverse.takeWhile (· != '\n')).reverse
  modify fun s => { s with kept := [.ofList (text.toList.take (text.length - rest.length))] }
  flush
  if !rest.isEmpty then modify fun s => { s with kept := [.ofList rest] }

/-- Write to standard output. -/
def say (text : String) : Act Unit :=
  modify fun s => { s with kept := text :: s.kept }

/-- Write to standard error. In the extended dialect lines are written out as they come. -/
def sayError (text : String) : Act Unit := do
  if (← get).dialect = .extended && !(← get).kept.isEmpty then flushLines
  let _ ← writeAll 2 (text.length + 1) text

/-- Write a line to standard error. -/
def complain (text : String) : Act Unit :=
  sayError (text ++ "\n")

/-- The name under which a shell complains: that of the script that the function which runs stands in. -/
def Shell.complainer (s : Shell) : String :=
  match s.called.find? (·.source != "") with
  | some c => c.source
  | none => s.name

/-- What stands before a complaint about a line. -/
def Shell.complaintLead (s : Shell) (line : Nat) : String :=
  match s.dialect with
  | .plain => s.name ++ ": " ++ toString line ++ ": "
  | .extended => s.complainer ++ ": line " ++ toString line ++ ": "

/-- Complain in the shell's own name. -/
def complainAt (text : String) : Act Unit := do
  let s ← get
  let speaker := match s.speaker with | some name => name ++ ": " | none => ""
  complain (s.complaintLead s.line ++ speaker ++ text)

def setStatus (status : Nat) : Act Unit :=
  modify fun s => { s with status }

/-- Break off with a status. -/
def fail (status : Nat) : Act α := do
  setStatus status
  throw .failed

/-- Complain and give up: the command if it is one of the shell's own that may fail, or the shell. -/
def giveUpWith (text : String) (status : Nat) : Act α := do
  complainAt text
  fail status

/-- Complain about a fault in the script and give up. -/
def giveUp (text : String) : Act α :=
  giveUpWith text 2

/-- Complain, and drop the line of the script that is run. -/
def drop (text : String) : Act α := do
  complainAt text
  setStatus 1
  throw .dropped

/-- Complain about a variable that keeps its value, whatever command would change it, and drop the line. -/
def dropReadOnly (name : String) : Act α := do
  let s ← get
  complain (s.complaintLead s.line ++ name ++ ": readonly variable")
  setStatus 1
  throw .dropped

/-- The status of a shell that ends because a parameter is not there. -/
def Shell.strictStatus (s : Shell) : Nat :=
  if s.isArgument && s.subshells = 0 && !s.modes.stopOnFailure then 127 else 1

/-- Complain, and end the shell. -/
def leaveWith (text : String) : Act α := do
  complainAt text
  setStatus (← get).strictStatus
  throw .exit

/-- End the shell with a status. -/
def leaveShell (status : Nat) : Act α := do
  setStatus status
  throw .exit

/-- Do something in the name of a command. -/
def speakingAs (name : String) (act : Act α) : Act α := do
  let before := (← get).speaker
  modify fun s => { s with speaker := some name }
  settingRight (modify ({ · with speaker := before })) act

/-! ### Assignments -/

/-- The number that an argument must be. -/
def numberOf (text : String) : Act Nat := do
  match Numeral.whole? 10 text with
  | some n =>
    if 0 ≤ n && n ≤ Numeral.greatestShort then return n.toNat
    giveUp ("Illegal number: " ++ text)
  | none => giveUp ("Illegal number: " ++ text)

/-- Set where options are read on. -/
def setOptionIndex (n : Nat) : Act Unit :=
  modify fun s => { s with optionIndex := max n 1, optionOffset := 0 }

/-- Assign to a variable. -/
def assignWith (change : Variable → Variable) (name : String) (value : Option String) :
    Act Unit := do
  let s ← get
  let name := s.target name
  let old := (s.declared? name).getD {}
  match value with
  | some value =>
    if old.readOnly then
      if s.dialect = .extended then dropReadOnly name
      giveUp (name ++ ": is read only")
    else
      if name = "OPTIND" then
        setOptionIndex (← if s.dialect = .extended then pure ((value.toNat?).getD 1) else numberOf value)
      let s ← get
      let v := change { old.holding value with exported := old.exported || s.modes.exportAll }
      set (s.setVariable name (some v))
  | none => set (s.setVariable name (some (change old)))

/-- Assign to a variable. -/
def assign (name value : String) : Act Unit :=
  assignWith id name (some value)

/-- Take a variable away. -/
def unsetVariable (name : String) : Act Unit := do
  let s ← get
  if ((s.declared? name).any (·.readOnly)) then giveUp (name ++ ": is read only")
  if name = "OPTIND" then let _ ← numberOf ""
  set (s.setVariable name none)

/-- Keep something that is to be restored when the command is done. -/
def keep (saved : Saved) : Act Unit :=
  modify fun s =>
    match s.saved with
    | frame :: frames => { s with saved := (saved :: frame) :: frames }
    | [] => s

/-- Restore what was kept. -/
def restore : Saved → Act Unit
  | .variable name v => do
    modify fun s => s.setVariable name v
    if name = "OPTIND" then
      match (v.bind (·.value)).bind (Numeral.whole? 10) with
      | some n => setOptionIndex n.toNat
      | none => pure ()
  | .modes modes => modify fun s => { s with modes }

/-- Restore what has been kept, the last first. -/
def restoreFrame : Act Unit := do
  let s ← get
  match s.saved with
  | frame :: frames =>
    set { s with saved := frames }
    frame.forM restore
  | [] => pure ()

/-- Do something, and restore at its end what it has kept. If it is broken off, nothing is restored, unless
the script goes on. -/
def restoring (act : Act α) : Act α := do
  modify fun s => { s with saved := [] :: s.saved }
  let result ← ExceptT.lift (m := StateT Shell Doing) act.run
  match result with
  | .ok a => do
    restoreFrame
    return a
  | .error .dropped => do
    restoreFrame
    throw .dropped
  | .error e => throw e

end Ensemble.Shell
