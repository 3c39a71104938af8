import Ensemble.Shell.Extended.Builtin.Flow
import Ensemble.Shell.Extended.Builtin.Jobs
import Ensemble.Shell.Extended.Builtin.Names
import Ensemble.Shell.Extended.Builtin.Places
import Ensemble.Shell.Extended.Builtin.Reading
import Ensemble.Shell.Extended.Builtin.Variables
import Ensemble.Shell.Extended.Condition
import Ensemble.Shell.Extended.Format

/-!
# Ensemble.Shell.Extended.Simple

**Simple commands of the extended dialect.** The words are expanded first, then the assignments; functions are
looked for before commands of the shell's own, and these before programs. Nothing that goes wrong with a
command ends the script, as long as no switch says so.
-/

/-! ### Commands that write

Commands that **write** their arguments, and the one that asks about them.
-/

namespace Ensemble.Shell.Extended.Builtin

def echo : Own := fun args => do
  say (Format.echo ((← get).toggles.contains "xpg_echo") args)
  return 0

/-- Say pieces, and complain between them; so many pieces have been said. -/
def sayPieces : Nat → List String → List (Nat × String) → Act Unit
  | _, pieces, [] => say (String.join pieces)
  | before, pieces, (n, told) :: complaints => do
    say (String.join (pieces.take (n - before)))
    complainAt told
    sayPieces n (pieces.drop (n - before)) complaints

/-- `printf`. What it writes can be given to a variable. -/
def printf : Own := withOptions "" "v" fun g => do
  let target := g.value? 'v'
  match target with
  | some name =>
    if !isTarget name then
      notName name
      return 2
  | none => pure ()
  match g.operands with
  | [] => showUsage
  | format :: args => do
    let now := (← ask .clock) / 1000000
    let printed := Format.printf now ((← get).countedFrom / 1000000) format args
    let fault := printed.base.fault
    let complaints := printed.base.complaints.reverse ++
      (fault.map fun told => (printed.base.pieces.length, told)).toList
    let status := if printed.failed || fault.isSome then 1 else 0
    match target with
    | none => do
      sayPieces 0 printed.base.pieces.reverse complaints
      return status
    | some name => do
      complaints.forM fun (_, told) => complainAt told
      let (name, place) := nameAndPlace name
      let done ← surviving (assignTo name place false printed.base.text)
      return if done then status else 1

/-- `test` under one of its names. -/
def test (bracket : Bool) : Own := fun args => do
  if bracket && args.getLast? != some "]" then Condition.wrong "missing \x60]'"
  let args := if bracket then args.dropLast else args
  return if ← Condition.ofWords (if bracket then "]" else "") args then 0 else 1

end Ensemble.Shell.Extended.Builtin

/-! ### Simple commands -/

namespace Ensemble.Shell.Extended

/-! ### Events -/

/-- Do what is to be done on an event, unless that is being done. -/
def onEvent (inner : Inner) (event : Nat) : Act Unit := do
  let s ← get
  match s.traps.lookup event with
  | none | some "" => return ()
  | some action => do
    if s.inTrap then return ()
    set { s with inTrap := true, statusBefore := some s.status }
    settingRight (modify ({ · with inTrap := s.inTrap, statusBefore := s.statusBefore })) do
      let _ ← runText inner {} action s.line
      modify ({ · with status := s.status, line := s.line, pipeStatuses := s.pipeStatuses })

/-- Keep a command in mind that is going to run, and do what is to be done before it. -/
def beforeCommand (inner : Inner) (c : Command) : Act Unit := do
  if !(← get).inTrap then
    modify ({ · with running := c })
    onEvent inner Event.beforeCommands

/-! ### Functions -/

/-- The events on which nothing is done in a function, if no switch says so. -/
def hiddenEvents (s : Shell) : List Nat :=
  (if s.modes.commandTraps then [] else [Event.beforeCommands, Event.onReturn]) ++
    if s.modes.failureTraps then [] else [Event.onFailure]

/-- Do something as a function or as a script that is read from a file does it. -/
def calling (inner : Inner) (c : Called) (positional : Option (List String)) (hidden : List Nat)
    (act : Act Unit) : Act Unit := do
  let s ← get
  let put := s.traps.filter fun (n, _) => hidden.contains n
  set { s with
    positional := positional.getD s.positional, called := c :: s.called
    traps := s.traps.filter fun (n, _) => !hidden.contains n }
  let leave : Act Unit := modify fun after =>
    { after with
      positional := if positional.isSome then s.positional else after.positional
      called := s.called
      traps := put.filter (fun (n, _) => (after.traps.lookup n).isNone) ++ after.traps
      skip := match after.skip with | some (.function _) => none | skip => skip }
  settingRight leave do
    act
    let s ← get
    set { s with skip := none }
    onEvent inner Event.onReturn
    modify ({ · with skip := s.skip })

/-- Call a function with arguments. -/
def callFunction (inner : Inner) (manner : Manner) (name : String) (body : Command) (args : List String) :
    Act Unit := do
  let s ← get
  let source := (s.functionSources.lookup name).getD ""
  modify ({ · with calls := s.calls + 1, loops := 0 })
  settingRight (modify ({ · with calls := s.calls, loops := s.loops, line := s.line })) do
    restoring do
      calling inner ⟨name, source, s.line⟩ (some args) (hiddenEvents s)
        (inner.run { tested := manner.tested } body)
  ask .tick

/-! ### Scripts -/

/-- Do something one level of tracing further in. -/
def deeper (act : Act α) : Act α := do
  let depth := (← get).traceDepth
  modify ({ · with traceDepth := depth + 1 })
  settingRight (modify ({ · with traceDepth := depth })) act

/-- Run arguments as a script. -/
def eval (inner : Inner) (manner : Manner) : Own := withOptions "" "" fun g => do
  let text := " ".intercalate g.operands
  let s ← get
  modify ({ · with textLabel := some "eval", status := 0, speaker := none })
  settingRight (modify ({ · with textLabel := s.textLabel, speaker := s.speaker })) do
    let _ ← deeper (runText inner { tested := manner.tested } text (s.nextLine - 1))
    return (← get).status

/-- The path of a script that is to be read: a name without a slash is looked for. -/
def scriptPath (name : String) : Act String := do
  if name.toList.contains '/' then return name
  let s ← get
  if !s.toggles.contains "sourcepath" then return name
  let found ← (Lookup.candidates (s.value? "PATH") name).findM? fun path => do
    match ← ask (.status path true) with
    | .ok status => return status.kind = .file
    | .error _ => return false
  return found.getD name

/-- Read a script, and run it in this shell. -/
def source (inner : Inner) (manner : Manner) : Own := withOptions "" "" fun g => do
  match g.operands with
  | [] => misuse "filename argument required"
  | name :: args => do
    let path ← scriptPath name
    let s ← get
    match ← ask (.openFile path { reads := true }) with
    | .error e => do
      complain (s.complaintLead s.line ++ path ++ ": " ++ e.message)
      return 1
    | .ok fd => do
      if ((← ask (.descriptorStatus fd)).toOption).any (·.kind = .directory) then
        Process.close fd
        complainAt (path ++ ": is a directory")
        return 1
      let text ← Process.readAll fd Process.waitLimit []
      Process.close fd
      modify ({ · with textLabel := none, status := 0, speaker := none })
      settingRight (modify ({ · with textLabel := s.textLabel, speaker := s.speaker, line := s.line })) do
        calling inner ⟨"source", path, s.line⟩ (if args.isEmpty then none else some args) [] do
          match ← holding (deeper (runCommands inner { tested := manner.tested } true text)) with
          | .ok _ | .error .failed => pure ()
          | .error e => throw e
        return (← get).status

/-! ### Programs -/

/-- The path of a program: the first file on the way that can be run, or else the first file. -/
def locate (s : Shell) (search : Option String) (name : String) : Act (Option String) := do
  match search <|> s.value? "PATH" with
  | none | some "" => return some name
  | some search => do
    let paths := Lookup.candidates (some search) name
    let files ← paths.filterMapM fun path => do
      match ← ask (.status path true) with
      | .ok s => return if s.kind = .file then some (path, (s.mode &&& 0o111) != 0) else none
      | .error _ => return none
    return ((files.find? (·.2)).orElse fun _ => files.head?).map (·.1)

/-- Why a program cannot be run, and the status that tells it. -/
def refusal (path : String) (e : MachineFault) : Act (String × Nat) := do
  match e with
  | .notFound | .notDirectory => do
    match ← ask (.status path true) with
    | .ok _ => return ("cannot execute: required file not found", 127)
    | .error e => return (e.message, 127)
  | .badFormat => return ("cannot execute binary file: Exec format error", 126)
  | e => do
    match ← ask (.status path true) with
    | .ok s => return (if s.kind = .directory then "Is a directory" else e.message, 126)
    | .error _ => return (e.message, 126)

/-- The shell is counted out where it goes on as a program by itself. -/
def countOut : Act Unit := do
  let s ← get
  match (s.value? "SHLVL").bind String.toNat? with
  | some n => modify (·.setValue false "SHLVL" (toString (n - 1)))
  | none => pure ()

/-- Go on as the program at a path. -/
def become (inner : Inner) (path : String) (args : List String) : Act Unit := do
  let e ← Lookup.launch inner path args
  let (told, status) ← refusal path e
  complainAt (path ++ ": " ++ told)
  leaveShell status

/-- Go on as another program. -/
def exec (inner : Inner) : Own := withOptions "cl" "a" fun g => do
  match g.operands with
  | [] => return 0
  | name :: _ => do
    let s ← get
    let found ← if name.toList.contains '/' then pure (some name) else locate s none name
    match found with
    | none => do
      complainAt (name ++ ": not found")
      if s.toggles.contains "execfail" then return 127
      leaveShell 127
    | some path => do
      if g.has 'c' then
        modify fun s => { s with bindings := s.bindings.map fun (n, v) => (n, { v with exported := false }) }
      countOut
      let name := (g.value? 'a').getD name
      let name := if g.has 'l' then "-" ++ name else name
      let e ← Lookup.launch inner path (name :: g.operands.drop 1)
      let (told, status) ← refusal path e
      complain (s.complaintLead s.line ++ path ++ ": " ++ told)
      complainAt (path ++ ": cannot execute: " ++ told)
      leaveShell status

/-! ### Commands of the shell's own -/

/-- The commands of the shell's own that run no others. -/
def table : List (String × Own) :=
  [(":", fun _ => return 0), ("[", Builtin.test true), ("alias", Builtin.makeAlias),
    ("bg", Builtin.moveJob), ("bind", Builtin.nothing 0 (some "warning: line editing not enabled")),
    ("break", Builtin.leaveLoops .leave), ("caller", Builtin.caller), ("cd", Builtin.cd),
    ("compgen", Builtin.nothing 1 none), ("complete", Builtin.nothing 0 none),
    ("compopt", Builtin.nothing 1 (some "not currently executing completion function")),
    ("continue", Builtin.leaveLoops .next), ("dirs", Builtin.dirs), ("disown", Builtin.disown),
    ("echo", Builtin.echo), ("enable", Builtin.enable), ("exit", Builtin.exit),
    ("false", fun _ => return 1), ("fc", Builtin.nothing 0 none), ("fg", Builtin.moveJob),
    ("getopts", Builtin.getopts), ("hash", Builtin.hash), ("help", Builtin.nothing 0 none),
    ("history", Builtin.nothing 0 none), ("jobs", Builtin.jobs), ("kill", Builtin.kill),
    ("let", Builtin.let'), ("logout", Builtin.nothing 1 (some "not login shell: use \x60exit'")),
    ("popd", Builtin.popd), ("printf", Builtin.printf), ("pushd", Builtin.pushd), ("pwd", Builtin.pwd),
    ("read", Builtin.read), ("return", Builtin.return'), ("set", Builtin.set'),
    ("shift", Builtin.shift), ("shopt", Builtin.shopt),
    ("suspend", Builtin.nothing 1 (some "cannot suspend: no job control")),
    ("test", Builtin.test false), ("times", Builtin.times), ("trap", Builtin.trap),
    ("true", fun _ => return 0), ("type", Builtin.type), ("ulimit", Builtin.ulimit),
    ("umask", Builtin.umask), ("unalias", Builtin.unalias), ("unset", Builtin.unset),
    ("wait", Builtin.wait)]

/-- The commands that declare. -/
def declaringTable : List (String × Builtin.Declaring) :=
  [("declare", Builtin.declare), ("export", Builtin.export'), ("local", Builtin.local'),
    ("readonly", Builtin.readonly), ("typeset", Builtin.declare)]

/-- A command of the shell's own by its name. -/
def own (inner : Inner) (manner : Manner) (name : String) (operands : List Builtin.Operand) : Act Nat :=
  match declaringTable.lookup name with
  | some command => command operands
  | none =>
    let args := operands.map (·.text)
    match name with
    | "eval" => eval inner manner args
    | "." | "source" => source inner manner args
    | "exec" => exec inner args
    | "mapfile" | "readarray" => Builtin.mapfile inner args
    | name => ((table.lookup name).getD fun _ => return 127) args

/-- Run a command of the shell's own. -/
def runOwn (inner : Inner) (manner : Manner) (name : String) (operands : List Builtin.Operand) :
    Act Unit := do
  let act : Act Unit := do
    let status ← own inner manner name operands
    flush
    setStatus status
    match (← get).writeFault with
    | some e => do
      modify ({ · with writeFault := none })
      complainAt ("write error: " ++ e.message)
      setStatus 1
    | none => pure ()
  match ← holding (speakingAs name act) with
  | .ok () => pure ()
  | .error e => do
    flush
    modify ({ · with writeFault := none })
    if e = .failed then pure () else throw e

/-! ### Words -/

/-- A simple command whose words have been expanded. -/
structure Prepared where
  /-- The words, as they are traced. -/
  traced : List String := []
  name : String := ""
  operands : List Builtin.Operand := []
  /-- Is there a command at all? -/
  isThere : Bool := false

/-- The name of the command among words: those before it tell how it is to be looked for. -/
def effectiveName (names : List String) : String :=
  (names.dropWhile (["command", "builtin", "-p", "--"].contains ·)).headD ""

/-- A word in which something is assigned, and that is no assignment here, as one text. -/
def assigningText (run : Expansion.Scripts) (w : Word) (b : Binding) : Act String := do
  if w.any fun | .elements _ => true | _ => false then return Word.source w
  return (← b.expand run).text

/-- Expand the words of a simple command. -/
def expandWords (run : Expansion.Scripts) : List Word → List Builtin.Operand →
    Act (List Builtin.Operand)
  | [], found => return found.reverse
  | w :: ws, found => do
    let holdsPlace := w.any fun | .elements _ | .place _ => true | _ => false
    let declares :=
      (declaringTable.lookup (effectiveName (found.reverse.map (·.text)))).isSome
    match if declares || holdsPlace then Binding.ofWord? w else none with
    | some b =>
      if declares then
        let s ← b.expand run
        expandWords run ws (.setting s :: found)
      else
        let text ← assigningText run w b
        expandWords run ws (.word text :: found)
    | none => do
      let texts ← Expansion.texts run [w]
      expandWords run ws ((texts.map Builtin.Operand.word).reverse ++ found)

/-- Tell a command before it is run. -/
def traceCommand (run : Expansion.Scripts) (found : List Builtin.Operand) : Act Unit := do
  for o in found do
    match o with
    | .setting s =>
      match s.value with
      | .many items => traceWith run (s.target ++ s.mark ++ "(" ++ Setting.itemsText items ++ ")")
      | .one _ => pure ()
    | .word _ => pure ()
  traceWith run (" ".intercalate (found.map fun o => Quoting.traced o.text))

/-- Make an assignment that stands before a command, and tell it. -/
def assignBinding (run : Expansion.Scripts) (b : Binding) : Act Setting := do
  let s ← b.expand run
  traceWith run (match s.value with
    | .one value => s.target ++ s.mark ++ Quoting.tracedValue value
    | .many _ => s.target ++ s.mark ++ "(" ++ b.itemsText ++ ")")
  return s

/-! ### Commands -/

/-- What a command is found to be. -/
inductive Found
  | function (name : String) (body : Command)
  | own (name : String)
  | program (path : String)
  | unknown

/-- How a command is to be looked for. -/
structure Seeking where
  functions : Bool := true
  programs : Bool := true
  path : Option String := none

/-- Take off the words that tell how a command is to be looked for; those that only ask stay. -/
def seek : Nat → Seeking → List Builtin.Operand → Act (Seeking × List Builtin.Operand)
  | 0, how, found => return (how, found)
  | fuel + 1, how, found => do
    let s ← get
    let names := found.map (·.text)
    let hidden (name : String) : Bool :=
      (how.functions && (s.functions.lookup name).isSome) || s.disabled.contains name
    match names with
    | "command" :: rest =>
      if hidden "command" then return (how, found)
      let letters := rest.takeWhile fun a => a == "-p"
      let after := rest.drop letters.length
      let ended := after.head? == some "--"
      let after := if ended then after.drop 1 else after
      match after with
      | [] => return (how, found)
      | a :: _ =>
        if !ended && a.toList.head? == some '-' && a != "-" then return (how, found)
        let path := if letters.isEmpty then how.path else some "/bin:/usr/bin"
        seek fuel { how with functions := false, path } (found.drop (found.length - after.length))
    | "builtin" :: rest =>
      if hidden "builtin" then return (how, found)
      let after := if rest.head? == some "--" then rest.drop 1 else rest
      match after with
      | [] => return (how, found)
      | a :: _ =>
        if rest.head? != some "--" && a.toList.head? == some '-' && a != "-" then return (how, found)
        seek fuel { how with functions := false, programs := false }
          (found.drop (found.length - after.length))
    | _ => return (how, found)

/-- What a command is. -/
def find (how : Seeking) (name : String) : Act Found := do
  let s ← get
  match if how.functions then s.functions.lookup name else none with
  | some body => return .function name body
  | none =>
    if s.dialect.isOwn name && !s.disabled.contains name then return .own name
    if !how.programs then return .unknown
    if name.toList.contains '/' then return .program name
    match if how.path.isNone then s.tracked.lookup name else none with
    | some (path, _) => do
      modify fun s => { s with hits := s.hits.map fun (n, k) => if n == name then (n, k + 1) else (n, k) }
      return .program path
    | none => do
      match ← if name = "" then pure none else locate s how.path name with
      | some path => do
        if how.path.isNone && s.modes.remembers && path.toList.contains '/' then
          Lookup.track name path
          modify fun s => { s with hits := (name, 1) :: s.hits.filter (·.1 != name) }
        return .program path
      | none => return .unknown

/-- What `command` and `builtin` do that run nothing. -/
def askAbout (name : String) : Own :=
  match name with
  | "command" => withOptions "pvV" "" fun g =>
    if g.has 'v' || g.has 'V' then Builtin.describe g else return 0
  | _ => withOptions "" "" fun _ => return 0

/-- Run a program in a process of its own, or in this one if that ends with it. -/
def runApart (inner : Inner) (manner : Manner) (aims : List (Act (Nat × Aim))) (act : Act Unit) : Act Unit := do
  let text := Listing.command {} (← get).running
  let all : Act Unit := do
    match ← Redirection.redirectAll inner false [] aims with
    | (_, .ok true) => act
    | (_, .ok false) => leaveShell 1
    | (_, .error e) => throw e
  if manner.last && manner.replacing != .never && !(← Process.hasTraps) then
    if manner.replacing = .counted then countOut
    all
  else
    setStatus (← Process.apart inner text all)

/-- Run a command whose words and assignments have been made. -/
def runPrepared (inner : Inner) (manner : Manner) (redirects : List Redirect)
    (found : List Builtin.Operand) : Act Unit := do
  let aims ← Redirection.aims inner redirects
  let (how, found) ← seek 1000 {} found
  let name := ((found.head?).map (·.text)).getD ""
  let operands := found.drop 1
  let args := operands.map (·.text)
  let under (forget : Bool) (act : Act Unit) : Act Unit :=
    Redirection.under inner forget aims (setStatus 1) fun _ => act
  match ← find how name with
  | .function name body => under false (callFunction inner manner name body args)
  | .own "command" | .own "builtin" =>
    under false do
      match ← holding (speakingAs name do
          let status ← askAbout name args
          flush
          setStatus status) with
      | .ok () | .error .failed => flush
      | .error e => throw e
  | .own name => under (name == "exec") (runOwn inner manner name operands)
  | .program path => runApart inner manner aims (become inner path (name :: args))
  | .unknown =>
    if !how.programs then
      under false do
        complainAt ("builtin: " ++ name ++ ": not a shell builtin")
        setStatus 1
    else
      match (← get).functions.lookup "command_not_found_handle" with
      | some body =>
        runApart inner { manner with last := false } aims do
          callFunction inner manner "command_not_found_handle" body (name :: args)
      | none =>
        runApart inner manner aims do
          complainAt (name ++ ": command not found")
          leaveShell 127
  Process.collectIfAny

/-- Close the channels that were opened since some had been. -/
def closeChannels (before : List Nat) : Act Unit := do
  let s ← get
  if s.channels.length != before.length then
    (s.channels.filter (!before.contains ·)).forM Process.close
    modify ({ · with channels := before })

/-- Run a simple command. Assignments before a command count for that command only. -/
def simple (inner : Inner) (manner : Manner) (line : Nat) (assigns words : List Word)
    (redirects : List Redirect) : Act Unit := do
  ask .tick
  modify ({ · with line })
  let manner :=
    if !redirects.isEmpty && (← get).subshells = 0 && manner.replacing = .counted then
      { manner with replacing := .never }
    else manner
  beforeCommand inner (.simple line assigns words redirects)
  let channels := (← get).channels
  modify ({ · with outputStatus := 0 })
  settingRight (closeChannels channels) do
    let run := Process.scripts inner
    let found ← expandWords run words []
    let bindings := assigns.filterMap Binding.ofWord?
    if found.isEmpty then
      for b in bindings do
        let s ← assignBinding run b
        s.apply
      let status := (← get).outputStatus
      let aims ← Redirection.aims inner redirects
      Redirection.under inner false aims (setStatus 1) fun _ => setStatus status
      modify fun s => s.setValue false "_" ""
    else
      let act : Act Unit := do
        for b in bindings do
          let s ← assignBinding run b
          let name := (← get).target s.name
          keep (.variable name ((← get).declared? name))
          if ← surviving s.apply then
            modify fun s => s.setVariable name ((s.declared? name).map ({ · with exported := true }))
        traceCommand run found
        runPrepared inner manner redirects found
      if bindings.isEmpty then act else restoring act
      let last := ((found.getLast?).map (·.text)).getD ""
      modify fun s => s.setValue false "_" last

end Ensemble.Shell.Extended
