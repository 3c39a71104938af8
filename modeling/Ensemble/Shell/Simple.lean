import Ensemble.Shell.Builtin.Basic
import Ensemble.Shell.Builtin.Directory
import Ensemble.Shell.Builtin.Jobs
import Ensemble.Shell.Builtin.Names
import Ensemble.Shell.Builtin.Variables
import Ensemble.Shell.Condition
import Ensemble.Shell.Format

/-!
# Ensemble.Shell.Simple

**Simple commands of the plain dialect**: words, assignments and redirections. The words are expanded first;
which command it is decides what is done with those that are left. A special command that is used wrongly
ends the shell.
-/

/-! ### Commands that write

Commands that **write** their arguments, and the one that asks about them.
-/

namespace Ensemble.Shell.Builtin

def echo : Own := fun args => do
  say (Format.echo args)
  return 0

/-- `printf`, which gives up where its format cannot be gone on with. What it writes comes after its
complaints. -/
def printf : Own := .withOptions "" "" fun g => do
  match g.operands with
  | [] => giveUp "usage: printf format [arg ...]"
  | format :: args => do
    let printed := Format.printf format args
    printed.complaints.reverse.forM fun (_, told) => complainAt told
    say printed.text
    match printed.fault with
    | some told => giveUp told
    | none => return if printed.complaints.isEmpty then 0 else 1

/-- What a condition asks of a shell. -/
def facts : Facts Act where
  number s := do
    match Numeral.whole? 10 s with
    | some n => return n
    | none => giveUp ("Illegal number: " ++ s)
  status follow path := return (← ask (.status path follow)).toOption
  isTerminal _ := return false
  misused word told :=
    giveUp ((match word with | some w => w ++ ": " | none => "") ++ told)

/-- `test` under one of its names. -/
def test (bracket : Bool) : Own := fun args => do
  if bracket then
    if (args.getLast?.bind (·.toList.head?)) != some ']' then giveUp "missing ]"
  let args := if bracket then args.dropLast else args
  return if ← Condition.eval facts false args then 0 else 1

end Ensemble.Shell.Builtin

/-! ### Simple commands -/

namespace Ensemble.Shell.Simple

/-! ### Commands of the shell's own -/

/-- The commands of the shell's own that run no others. -/
def table : List (String × Own) :=
  [(":", fun _ => return 0), ("[", Builtin.test true), ("alias", Builtin.makeAlias),
    ("bg", Builtin.moveJob), ("break", Builtin.leaveLoops .leave), ("cd", Builtin.cd),
    ("chdir", Builtin.cd), ("command", Builtin.command), ("continue", Builtin.leaveLoops .next),
    ("echo", Builtin.echo), ("exit", Builtin.exit),
    ("export", Builtin.mark "export" (·.exported) ({ · with exported := true })),
    ("false", fun _ => return 1), ("fg", Builtin.moveJob), ("getopts", Builtin.getopts),
    ("hash", Builtin.hash), ("jobs", Builtin.jobs), ("kill", Builtin.kill),
    ("local", Builtin.local'), ("printf", Builtin.printf), ("pwd", Builtin.pwd),
    ("read", Builtin.read),
    ("readonly", Builtin.mark "readonly" (·.readOnly) ({ · with readOnly := true })),
    ("return", Builtin.return'), ("set", Builtin.set'), ("shift", Builtin.shift),
    ("test", Builtin.test false), ("times", Builtin.times), ("trap", Builtin.trap),
    ("true", fun _ => return 0), ("type", Builtin.type), ("ulimit", Builtin.ulimit),
    ("umask", Builtin.umask), ("unalias", Builtin.unalias), ("unset", Builtin.unset),
    ("wait", Builtin.wait)]

/-- Run arguments as a script. -/
def eval (inner : Inner) (manner : Manner) : Own := fun args => do
  let ran ← runText inner { manner with last := false } (" ".intercalate args)
  let s ← get
  return if ran then s.status else 0

/-- The path of a script that is to be read: a name without a slash is looked for. -/
def scriptPath (name : String) : Act String := do
  if name.toList.contains '/' then return name
  else
    let paths := Lookup.candidates ((← get).value? "PATH") name
    let found ← paths.findM? fun path => do
      match ← ask (.status path true) with
      | .ok status => return status.kind = .file
      | .error _ => return false
    match found with
    | some path => return path
    | none => giveUp (name ++ ": not found")

/-- Read a script, and run it in this shell. -/
def source (inner : Inner) : Own := .withOptions "" "" fun g => do
  match g.operands with
  | [] => return 0
  | name :: _ => do
    let path ← scriptPath name
    match ← ask (.openFile path { reads := true }) with
    | .error e => giveUp ("cannot open " ++ path ++ ": " ++ Redirection.reason false e)
    | .ok fd => do
      let text ← Process.readAll fd Process.waitLimit []
      Process.close fd
      let ran ← speakingAs path (runCommands inner {} true text)
      let s ← get
      set { s with skip := match s.skip with | some (.function _) => none | skip => skip }
      return if ran then s.status else 0

/-- Go on as another program. -/
def exec (inner : Inner) : Own := fun args => do
  match args with
  | [] => return 0
  | name :: _ => do
    let s ← get
    let paths := if name.toList.contains '/' then [name]
      else Lookup.candidates (s.value? "PATH") name
    Lookup.become inner args .notFound paths

/-- A command of the shell's own by its name. -/
def own (inner : Inner) (manner : Manner) (name : String) : Own :=
  match name with
  | "eval" => eval inner manner
  | "." => source inner
  | "exec" => exec inner
  | name => (table.lookup name).getD fun _ => return 127

/-- Run a command of the shell's own. If it gives up, so does the shell, unless it may fail. -/
def runOwn (inner : Inner) (manner : Manner) (name : String) (mayFail : Bool) (args : List String) :
    Act Unit := do
  let act : Act Unit := do
    let status ← own inner manner name args
    flush
    setStatus status
    if (← get).writeFault.isSome then
      modify fun s => { s with writeFault := none }
      complainAt (name ++ ": I/O error")
      setStatus (status ||| 1)
  match ← holding (speakingAs name act) with
  | .ok () => pure ()
  | .error e => do
    flush
    modify fun s => { s with writeFault := none }
    if e = .failed && mayFail then pure () else throw e

/-! ### Functions -/

/-- How many functions may be called by one another. -/
def callLimit : Nat := 1000

/-- Call a function with arguments. -/
def callFunction (inner : Inner) (manner : Manner) (body : Command) (args : List String) :
    Act Unit := do
  let s ← get
  if callLimit ≤ s.calls then
    giveUp ("Maximum function recursion depth (" ++ toString callLimit ++ ") reached")
  set { s with
    positional := args, optionIndex := 1, optionOffset := 0, calls := s.calls + 1, loops := 0 }
  let leave : Act Unit := modify fun after =>
    { after with
      positional := s.positional, optionIndex := s.optionIndex, optionOffset := s.optionOffset
      calls := s.calls, loops := s.loops
      skip := match after.skip with | some (.function _) => none | skip => skip }
  settingRight leave (inner.run { tested := manner.tested } body)
  ask .tick

/-! ### Simple commands -/

/-- The words of a simple command, expanded, and what is known of the command by that. -/
structure Prepared where
  /-- All words, as they are told. -/
  traced : List String := []
  /-- The name of the command and its arguments. -/
  args : List String := []
  /-- Is it a command of the shell's own? -/
  isOwn : Bool := false
  /-- Is the first word a special command of the shell's own, or another one? -/
  special : Option Bool := none
  /-- Can its name be that of a function? -/
  functions : Bool := true
  /-- Where it is looked for, if not where commands usually are. -/
  path : Option String := none

/-- Expand words until one of them stands for something. -/
def fill (run : Expansion.Scripts) : List Word → Act (List String × List Word)
  | [] => return ([], [])
  | w :: ws => do
    let found ← Expansion.fields run w
    if found.isEmpty then fill run ws else return (found, ws)

/-- What follows the word `command`: the words of the command that it runs, whether the usual path is
searched, and the words that are not expanded yet. None if it runs no command. -/
def afterCommand (run : Expansion.Scripts) : Nat → Option String → List String → List Word →
    Act (List String × Option (List String × Option String) × List Word)
  | 0, _, found, ws => return (found, none, ws)
  | fuel + 1, path, found, ws => do
    let (more, ws) ← if found.isEmpty then fill run ws else pure (found, ws)
    match more with
    | [] => return ([], none, ws)
    | a :: rest =>
      match a.toList with
      | ['-', '-'] => do
        let (next, ws) ← if rest.isEmpty then fill run ws else pure (rest, ws)
        let told := a :: next
        return (told, if next.isEmpty then none else some (next, path), ws)
      | '-' :: c :: cs =>
        if (c :: cs).all (· == 'p') then
          let (told, inside, ws) ← afterCommand run fuel (some defaultSearchPath) rest ws
          return (a :: told, inside, ws)
        else return (more, none, ws)
      | _ => return (more, some (more, path), ws)

/-- Expand the words that tell which command it is. -/
def prepareName (run : Expansion.Scripts) : Nat → Prepared → List Word →
    Act (Prepared × List Word)
  | 0, p, ws => return (p, ws)
  | fuel + 1, p, ws => do
    let name := p.args.headD ""
    let s ← get
    let inside := if name.toList.contains '/' then none else Lookup.inside? s p.functions name
    match inside with
    | some .own => do
      let isSpecial := specialCommands.contains name
      let p := { p with isOwn := true, special := some (p.special.getD isSpecial) }
      if name != "command" then return (p, ws)
      let (told, found, ws) ← afterCommand run 1000 p.path (p.args.drop 1) ws
      let traced := p.traced.take (p.traced.length - (p.args.length - 1)) ++ told
      match found with
      | none => return ({ p with traced, args := name :: told, functions := true }, ws)
      | some (args, path) =>
        prepareName run fuel { p with traced, args, functions := false, path, isOwn := false } ws
    | _ => return (p, ws)

/-- The commands whose arguments can be assignments. -/
def assigningCommands : List String :=
  ["alias", "export", "local", "readonly"]

/-- Expand the words of a simple command. -/
def prepare (inner : Inner) (words : List Word) : Act Prepared := do
  let run := Process.scripts inner
  let (found, ws) ← fill run words
  if found.isEmpty then return {}
  else
    let (p, ws) ← prepareName run 1000 { traced := found, args := found } ws
    let assigns := p.isOwn && assigningCommands.contains (p.args.headD "")
    let more ← ws.mapM fun w =>
      if assigns && w.isAssignment then do
        let text ← Expansion.assignmentText run w
        return [text]
      else Expansion.fields run w
    let more := more.flatten
    return { p with args := p.args ++ more, traced := p.traced ++ more }

/-- The text of a prompt, expanded; as it stands if that is not possible. -/
def promptText (inner : Inner) (name : String) : Act String := do
  let value := ((← get).value? name).getD ""
  let never : Owed := ⟨0, ['\uFFFF'], false, false⟩
  let s ← get
  let cursor := { Cursor.ofText value.toList 1 with documents := s.documents, nextDocument := s.nextDocument }
  match (WordReader.text (Reader.grammarAt Reader.depthLimit).scripts never).run cursor with
  | .error fault => do
    complainAt fault.message
    return value
  | .ok (w, _) => do
    match ← holding (Expansion.text (Process.scripts inner) { quoted := true } w) with
    | .ok text => return text
    | .error .failed => return value
    | .error e => throw e

/-- Tell a command before it is run. -/
def trace (inner : Inner) (kept : Redirection.Kept) (words : List String) : Act Unit := do
  let s ← get
  if s.modes.traceCommands && !s.inPrompt then
    modify fun s => { s with inPrompt := true }
    let lead ← promptText inner "PS4"
    let text := lead ++ " ".intercalate words ++ "\n"
    let fd := match kept.lookup 2 with | some (.copied fd) => fd | _ => 2
    let _ ← writeAll fd (text.length + 1) text
    modify fun s => { s with inPrompt := false }

/-- Run a program: in this process, if it ends with that, or else in one of its own. -/
def runProgram (inner : Inner) (manner : Manner) (args paths : List String) : Act Unit := do
  let become : Act Unit := Lookup.become inner args .notFound paths
  if manner.last && !(← Process.hasTraps) then become
  else setStatus (← Process.apart inner "" become)

/-- Run a simple command whose words, redirections and assignments have been made. -/
def runPrepared (inner : Inner) (manner : Manner) (p : Prepared) : Act Unit := do
  let name := p.args.headD ""
  let args := p.args.drop 1
  let mayFail := p.special != some true
  if p.args.isEmpty then setStatus (← get).outputStatus
  else
    let meaning ←
      if p.isOwn && (specialCommands.contains name || regularCommands.contains name) then
        pure Meaning.own
      else Lookup.meaning p.functions true p.path name
    match meaning with
    | .own => runOwn inner manner name mayFail args
    | .function body => callFunction inner manner body args
    | .program paths => runProgram inner manner p.args paths
    | .unknown => do
      setStatus 127
      if !mayFail then throw .failed
    Process.collectIfAny

/-- Run a simple command. Assignments before a command count for that command only, unless it is a
special one. -/
def simple (inner : Inner) (manner : Manner) (line : Nat) (assigns words : List Word)
    (redirects : List Redirect) : Act Unit := do
  ask .tick
  modify fun s => { s with line, outputStatus := 0 }
  let p ← prepare inner words
  let isLocal := !p.args.isEmpty && p.special != some true
  let isExec := p.isOwn && p.args.head? == some "exec"
  let change (v : Variable) : Variable :=
    { v with exported := v.exported || isLocal || (isExec && 1 < p.args.length) }
  let act : Act Unit := do
    let aims ← Redirection.aims inner redirects
    let failed : Act Unit := do
      setStatus 2
      if p.special == some true then throw .failed
    Redirection.under inner isExec aims failed fun kept => do
      let texts ← assigns.mapM fun w => do
        let text ← Expansion.assignmentText (Process.scripts inner) w
        if isLocal then Builtin.makeLocal change text
        else
          let (name, value) := nameAndValue text
          assignWith change name value
        return text
      trace inner kept (texts ++ p.traced)
      runPrepared inner manner p
  if isLocal then restoring act else act

end Ensemble.Shell.Simple
