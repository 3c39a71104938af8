import Ensemble.Shell.Format
import Ensemble.Shell.Lookup
import Ensemble.Shell.Signal
import Ensemble.Utility.Amount
import Ensemble.Utility.Input

/-!
# Ensemble.Utility.Starting

Utilities that **start programs**: `env`, `nice`, `nohup` and `timeout`; and `printenv` and `sleep`. A
program is looked for in the directories of the search path.
-/

namespace Ensemble.Utility

/-! ### Going on as a program -/

/-- Where programs are looked for if nothing says where. -/
def usualPath : String := "/bin:/usr/bin"

/-- Go on as the program at a path. A text that names no program that reads it is read by a shell. -/
def goOnAt (path : String) (args bindings : List String) : Tool MachineFault := do
  let d ← get
  match ← StateT.lift (d.launch path args bindings) with
  | .badFormat => StateT.lift (d.launch "/bin/sh" ("/bin/sh" :: path :: args.drop 1) bindings)
  | e => return e

/-- Go on as the first program of these paths that can be started; the answer is why that is not
possible. -/
def goOnAs (args bindings : List String) : MachineFault → List String → Tool MachineFault
  | reason, [] => return reason
  | reason, path :: paths => do
    match ← goOnAt path args bindings with
    | .notFound | .notDirectory => goOnAs args bindings reason paths
    | .notPermitted => goOnAs args bindings .notPermitted paths
    | e => return e

/-- Go on as the program that arguments name. -/
def goOn (args bindings : List String) : Tool MachineFault := do
  flush
  let name := args.headD ""
  if name.toList.contains '/' then goOnAt name args bindings
  else if name = "" then return .notFound
  else
    let search := ((bindings.map cutBinding).lookup "PATH").getD usualPath
    goOnAs args bindings .notFound (Shell.Lookup.candidates (some search) name)

/-- The status for a program that cannot be started. -/
def startStatus (e : MachineFault) : Nat :=
  if e == .notFound then 127 else 126

/-- Start a process that goes on as a program, or does something else if that is not possible. -/
def startProcess (args bindings : List String) (failing : MachineFault → Tool Nat) : Tool Nat := do
  flush
  let d ← get
  let act : Tool Nat := do
    let e ← goOn args bindings
    failing e
  StateT.lift (Doing.fork (Doing.toProcess do
    let (status, _) ← act.run { d with pieces := [], size := 0 }
    return status % 256))

/-- What a command writes to standard output, if a shell runs it. -/
def outputOf (command : String) : Tool String := do
  flush
  let (source, target) ← ask .pipe
  let d ← get
  let act : Tool Nat := do
    let _ ← ask (.duplicate target 1)
    let _ ← ask (.close source)
    let _ ← ask (.close target)
    let _ ← goOn ["sh", "-c", command] d.bindings
    return 127
  let child ← StateT.lift (Doing.fork (Doing.toProcess do
    let (status, _) ← act.run { d with pieces := [], size := 0 }
    return status % 256))
  let _ ← ask (.close target)
  let result ← readRest source readLimit []
  let _ ← ask (.close source)
  let _ ← ask (.wait (some child) true false)
  match result with
  | .ok text => return text
  | .error _ => return ""

/-! ### Environments -/

/-- Set a binding: in its place if there is one of that name, or else at the end. -/
def withBinding (bindings : List String) (b : String) : List String :=
  let name := (cutBinding b).1
  if bindings.any fun c => (cutBinding c).1 == name then
    bindings.map fun c => if (cutBinding c).1 == name then b else c
  else bindings ++ [b]

/-- Is this a binding? -/
def isBinding (s : String) : Bool :=
  s.toList.contains '='

/-- What a text that is split into arguments has come to: is an argument open? -/
structure Splitting where
  done : List String := []
  opened : Option (List Char) := none
  quote : Option Char := none

namespace Splitting

def push (s : Splitting) (c : Char) : Splitting :=
  { s with opened := some (c :: s.opened.getD []) }

def close (s : Splitting) : Splitting :=
  match s.opened with
  | none => s
  | some cs => { s with done := .ofList cs.reverse :: s.done, opened := none }

/-- The arguments in a text, between blanks, with quotes and backslashes. -/
def run : Splitting → List Char → List String
  | s, [] => s.close.done.reverse
  | s, '\x5c' :: c :: cs =>
    if s.quote == some '\x27' && c != '\x27' && c != '\x5c' then run ((s.push '\x5c').push c) cs
    else
      match c with
      | '_' => if s.quote.isSome then run (s.push ' ') cs else run s.close cs
      | 'c' => s.close.done.reverse
      | c => run (s.push ((Shell.Format.escape? c).getD c)) cs
  | s, c :: cs =>
    match s.quote with
    | some q => if c == q then run { s with quote := none } cs else run (s.push c) cs
    | none =>
      if c == '\x27' || c == '"' then
        run { s with quote := some c, opened := some (s.opened.getD []) } cs
      else if Shell.Numeral.isSpace c then run s.close cs
      else if c == '#' && s.opened.isNone then s.done.reverse
      else run (s.push c) cs

end Splitting

/-- Arguments of `env` in which a text to be split has been split. -/
def withSplit : Nat → List String → List String
  | 0, args => args
  | _, [] => []
  | fuel + 1, a :: args =>
    let split (text : String) (args : List String) : List String :=
      Splitting.run {} text.toList ++ args
    match a.toList with
    | '-' :: 'S' :: [] => match args with | b :: args => split b args | [] => [a]
    | '-' :: 'S' :: text => split (.ofList text) args
    | '-' :: 'v' :: 'S' :: text => "-v" :: split (.ofList text) args
    | cs =>
      if "--split-string=".toList.isPrefixOf cs then split (.ofList (cs.drop 15)) args
      else if cs.head? == some '-' && a != "-" && a != "--" then
        let takes := ["-u", "-C", "--unset", "--chdir"].contains a
        match takes, args with
        | true, b :: args => a :: b :: withSplit fuel args
        | _, args => a :: withSplit fuel args
      else a :: args

def env (args : List String) : Tool Nat := do
  let (chosen, operands) ← ({
    letters := "iu:C:S:0v", leading := true
    words := [("ignore-environment", "i"), ("null", "0"), ("unset:", "u"), ("chdir:", "C"),
      ("default-signal::", "signals"), ("ignore-signal::", "signals"), ("block-signal::", "signals"),
      ("list-signal-handling", "signals"), ("debug", "v"), ("split-string:", "S")] } :
    Choices).given (withSplit (args.length + 1) args)
  let (bare, operands) :=
    match operands with
    | "-" :: rest => (true, rest)
    | rest => (false, rest)
  let inherited := (← get).bindings
  let mut bindings := if bare || chosen.has "i" then [] else inherited
  for (name, value) in chosen.reverse do
    if name == "u" then
      if value = "" || value.toList.contains '=' then
        giveUp 125 ("cannot unset " ++ quoted value ++ ": Invalid argument")
      bindings := bindings.filter fun b => (cutBinding b).1 != value
  let given := operands.takeWhile isBinding
  bindings := given.foldl withBinding bindings
  let command := operands.drop given.length
  if chosen.has "0" && !command.isEmpty then misused "cannot specify --null (-0) with command"
  match chosen.value? "C" with
  | some dir => do
    if command.isEmpty then misused "must specify command with --chdir (-C)"
    match ← ask (.changeDirectory dir) with
    | .ok _ => pure ()
    | .error e => giveUp 125 ("cannot change directory to " ++ shellQuoted dir ++ ": " ++ e.message)
  | none => pure ()
  if command.isEmpty then
    for b in bindings do
      say (b ++ (if chosen.has "0" then "\x00" else "\n"))
    return 0
  let e ← goOn command bindings
  let name := command.headD ""
  complainOf (shellQuoted name) e
  if e == .notFound && name.toList.contains ' ' then
    complain "use -[v]S to pass options in shebang lines"
  return startStatus e

def printenv (args : List String) : Tool Nat := do
  let (chosen, operands) ←
    ({ letters := "0", words := [("null", "0")], leading := true } : Choices).given args
  let ending := if chosen.has "0" then "\x00" else "\n"
  let bindings := (← get).bindings
  if operands.isEmpty then
    for b in bindings do
      say (b ++ ending)
    return 0
  forEach operands fun name => do
    match if isBinding name then none else (bindings.map cutBinding).lookup name with
    | some value => do
      say (value ++ ending)
      return 0
    | none => return 1

/-! ### Manners of running -/

/-- Go on as a program, or tell why that is not possible. -/
def runCommand (command : List String) : Tool Nat := do
  let e ← goOn command (← get).bindings
  complainOf (shellQuoted (command.headD "")) e
  return startStatus e

def nohup (args : List String) : Tool Nat := do
  let (_, operands) ← ({ leading := true } : Choices).given args
  if operands.isEmpty then misused "missing operand"
  let _ ← ask (.respond 1 .ignore)
  let e ← goOn operands (← get).bindings
  complainOf ("failed to run command " ++ shellQuoted (operands.headD "")) e
  return startStatus e

def nice (args : List String) : Tool Nat := do
  let isOld (a : String) : Bool :=
    match a.toList with
    | '-' :: cs =>
      let digits := match cs with | '-' :: ds | '+' :: ds => ds | ds => ds
      (digits.head?).any Char.isDigit
    | _ => false
  let args := match args with
    | a :: rest => if isOld a then "-n" :: .ofList (a.toList.drop 1) :: rest else args
    | [] => []
  let (chosen, operands) ← ({
    letters := "n:", leading := true, words := [("adjustment:", "n")] } : Choices).given args
  match chosen.value? "n" with
  | some n =>
    if (Shell.Numeral.whole? 10 n).isNone || n = "" then
      giveUp 125 ("invalid adjustment " ++ quoted n)
    if operands.isEmpty then misused "a command must be given with an adjustment"
  | none => pure ()
  if operands.isEmpty then
    sayLine "0"
    return 0
  runCommand operands

/-! ### Waiting -/

def sleep (args : List String) : Tool Nat := do
  let (_, operands) ← ({} : Choices).given args
  if operands.isEmpty then misused "missing operand"
  let mut total := 0
  let mut fine := true
  for a in operands do
    match duration? a with
    | some t => total := total + t
    | none => do
      complain ("invalid time interval " ++ quoted a)
      fine := false
  if !fine then misuse
  flush
  ask (.sleep total)
  return 0

/-- How a command is limited. -/
structure Timing where
  signal : Nat := 15
  /-- The time after which the command is killed, if it has not ended on the signal. -/
  grace : Option Nat := none
  /-- Does it keep its status? -/
  keeps : Bool := false
  alone : Bool := false
  told : Bool := false
  command : String := ""

namespace Timing

/-- Start a process that ends after a time. -/
def alarm (time : Nat) : Tool Nat :=
  StateT.lift (Doing.fork (Doing.toProcess do
    for fd in List.range 10 do
      let _ ← Doing.ask (.close fd)
    Doing.ask (.sleep time)
    return 0))

/-- Send the signal. -/
def send (t : Timing) (process signal : Nat) : Tool Unit := do
  if t.told then
    complain ("sending signal " ++ Shell.signalName signal ++ " to command " ++ quoted t.command)
  let _ ← ask (.signal process signal)
  if !t.alone then
    if signal != 9 then
      let _ ← ask (.respond signal .ignore)
    let _ ← ask (.signal 0 signal)
    if signal != 18 then
      let _ ← ask (.signal process 18)

/-- The status of a command that has ended. -/
def statusOf (t : Timing) (timedOut : Bool) (ending : Ending) : Tool Nat := do
  match ending with
  | .exited n => return if timedOut && !t.keeps then 124 else n
  | .killed n =>
    if timedOut then return if t.keeps || n = 9 then 128 + n else 124
    else do
      flush
      let _ ← ask (.respond n .default)
      let _ ← ask (.signal (← ask .self) n)
      return 128 + n

/-- Wait for the command, or for the time to be over. -/
def watch (t : Timing) (process : Nat) : Nat → Bool → Option Nat → Option Nat → Tool Nat
  | 0, _, _, _ => return 125
  | fuel + 1, timedOut, clock, grace => do
    match ← ask (.wait none true false) with
    | .ended n ending =>
      if n = process then do
        match clock with
        | some c =>
          let _ ← ask (.signal c 9)
        | none => pure ()
        t.statusOf timedOut ending
      else if some n == clock then do
        let signal := if timedOut then 9 else t.signal
        let next ← match grace with
          | some time => do pure (some (← alarm time))
          | none => pure none
        t.send process signal
        watch t process fuel true next none
      else watch t process fuel timedOut clock grace
    | _ => return 125

end Timing

def timeout (args : List String) : Tool Nat := do
  let (chosen, operands) ← ({
    letters := "k:s:v", leading := true
    words := [("kill-after:", "k"), ("signal:", "s"), ("verbose", "v"), ("foreground", "foreground"),
      ("preserve-status", "preserve-status")] } : Choices).given args
  let interval (s : String) : Tool Nat := do
    match duration? s with
    | some t => return t
    | none => misused ("invalid time interval " ++ quoted s)
  let grace ←
    match chosen.value? "k" with
    | some s => do pure (some (← interval s))
    | none => pure none
  let signal ←
    match chosen.value? "s" with
    | some s =>
      let bare := if "SIG".toList.isPrefixOf s.toUpper.toList then String.ofList (s.toList.drop 3) else s
      match Shell.signalOf? bare with
      | some n => pure n
      | none => misused (quoted s ++ ": invalid signal")
    | none => pure 15
  match operands with
  | limit :: command@(name :: _) => do
    let time ← interval limit
    let t : Timing :=
      { signal, grace, keeps := chosen.has "preserve-status", alone := chosen.has "foreground"
        told := chosen.has "v", command := name }
    if !t.alone then ask .ownGroup
    let process ← startProcess command (← get).bindings fun e => do
      complainOf ("failed to run command " ++ shellQuoted name) e
      return startStatus e
    let clock ← if time = 0 then pure none else do pure (some (← Timing.alarm time))
    t.watch process 1000 false clock grace
  | _ => misuse

end Ensemble.Utility
