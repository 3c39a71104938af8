import Ensemble.Shell.Eval

/-!
# Ensemble.Shell.Extended.Start

**The shell of the extended dialect as a program**: its arguments, the variables that it begins with, and
where its script comes from. A script that is read from standard input is read line by line, so that its
commands can read what follows them.
-/

/-! ### The plain dialect

**The shell as a program**: what it does with its arguments. It runs the script that it is given as an
argument, or that a file holds, or that it reads from standard input.
-/

namespace Ensemble.Shell

namespace Start

/-- The path of the current directory: the one in the environment, if it leads there. -/
def currentPath (given : Option String) : Act String := do
  let real ← ask .directory
  match given with
  | none => return real
  | some path =>
    if path.toList.head? != some '/' then return real
    else
      match ← ask (.status path true), ← ask (.status "." true) with
      | .ok a, .ok b => return if a.number = b.number then path else real
      | _, _ => return real

/-- Complain before anything has been read, and end. -/
def refuse (told : String) : Act α := do
  modify fun s => { s with line := 0 }
  giveUp told

/-- Run a script that is read from a file. -/
def runFile (inner : Inner) (text : String) : Act Unit := do
  let _ ← runCommands inner {} true (.ofList (text.toList.filter (· != '\x00')))
  pure ()

/-- Run what is read from standard input. -/
def runInput (inner : Inner) : Act Unit := do
  runFile inner (← Process.readAll 0 Process.waitLimit [])

/-- Run a file with arguments, of which the first is its path. -/
def runPath (inner : Inner) (path : String) (positional : List String) : Act Unit := do
  match ← ask (.openFile path { reads := true }) with
  | .error e => refuse ("cannot open " ++ path ++ ": " ++ Redirection.reason false e)
  | .ok fd => do
    let text ← Process.readAll fd Process.waitLimit []
    Process.close fd
    modify fun s => { s with name := path, positional }
    runFile inner text

/-- Run a text with arguments, of which the first is the name that the shell goes by. -/
def runArgument (inner : Inner) (text : String) (args : List String) : Act Unit := do
  modify fun s => { s with name := args.headD s.name, positional := args.drop 1 }
  let more := (← get).modes.fromInput
  let _ ← runText inner {} text
  if more then runInput inner

/-- Take the switches off arguments and do what they say. -/
def run (inner : Inner) (args : List String) : Act Unit := do
  let found := Switches.ofWords Mode.all ['c', 'l'] {} args
  match found.fault with
  | some fault => refuse fault.message
  | none => pure ()
  match found.listing with
  | some asCommands => say (Builtin.listModes asCommands found.modes)
  | none => pure ()
  modify fun s => { s with modes := { found.modes with monitor := false } }
  if found.modes.interactive || found.modes.monitor then
    modify fun s => { s with line := 0 }
    complainAt "can't access tty; job control turned off"
  if found.others.contains 'c' then
    match found.rest with
    | [] => refuse "-c requires an argument"
    | text :: rest => runArgument inner text rest
  else
    match if found.modes.fromInput then none else found.rest.head? with
    | some path => runPath inner path (found.rest.drop 1)
    | none => do
      modify fun s => { s with modes := { s.modes with fromInput := true }, positional := found.rest }
      runInput inner

end Start

/-- The shell as a program. -/
def program : Program := fun launch args bindings => do
  let root ← Doing.ask .self
  let parent ← Doing.ask .parent
  let s : Shell := { Shell.ofBindings bindings parent with name := args.headD "sh", root }
  let inner := Eval.inner launch
  let act : Act Unit := do
    let path ← Start.currentPath (s.value? "PWD")
    modify fun s => { s.setValue true "PWD" path with path }
    Start.run inner (args.drop 1)
  match ← (toStatus inner act).run.run s with
  | (.ok status, _) => return status
  | (.error _, s) => return s.status

end Ensemble.Shell

/-! ### The extended dialect -/

namespace Ensemble.Shell.Extended.Start

/-! ### Arguments -/

/-- What is wrong with an argument. -/
inductive Fault
  | badOption (text : String)
  | noMode (name : String)
  | noToggle (name : String)
  | noArgument (text : String)

/-- What arguments say. -/
structure Invocation where
  modes : Modes := { fromInput := false }
  /-- The further switches that are turned on or off. -/
  toggles : List (Bool × String) := []
  /-- Letters that are no switches. -/
  letters : List Char := []
  /-- Are all switches to be listed, and as commands? -/
  listing : Option Bool := none
  /-- Is only the version told? -/
  version : Bool := false
  rest : List String := []

/-- Words that are options by themselves; the value that some of them have stands behind. -/
def longOptions : List (String × Bool) :=
  [("debug", false), ("debugger", false), ("dump-po-strings", false), ("dump-strings", false),
    ("help", false), ("init-file", true), ("login", false), ("noediting", false), ("noprofile", false),
    ("norc", false), ("posix", false), ("pretty-print", false), ("rcfile", true), ("restricted", false),
    ("verbose", false), ("version", false)]

/-- Letters of the program that are no switches. -/
def otherLetters : List Char :=
  ['c', 'l', 's', 'r', 'i', 'D']

/-- Take the letters of one word. -/
def letters (on : Bool) : List Char → Invocation → Except Fault Invocation
  | [], v => return v
  | 'o' :: cs, v =>
    match v.rest with
    | [] => letters on cs { v with listing := some !on }
    | name :: rest =>
      match Mode.extended.find? (·.name == name) with
      | some mode => letters on cs { v with modes := mode.put on v.modes, rest }
      | none => throw (.noMode name)
  | 'O' :: cs, v =>
    match v.rest with
    | [] => letters on cs v
    | name :: rest =>
      if (Builtin.toggleNames.lookup name).isSome then
        letters on cs { v with toggles := v.toggles ++ [(on, name)], rest }
      else throw (.noToggle name)
  | c :: cs, v =>
    if otherLetters.contains c then letters on cs { v with letters := c :: v.letters }
    else
      match Mode.extended.find? (·.letter == some c) with
      | some mode => letters on cs { v with modes := mode.put on v.modes }
      | none => throw (.badOption ((if on then "-" else "+") ++ c.toString))

/-- Take the words of letters that stand before all others. -/
def words : Nat → Invocation → Except Fault Invocation
  | 0, v => return v
  | fuel + 1, v =>
    match v.rest with
    | [] => return v
    | a :: rest =>
      match a.toList with
      | ['-'] | ['-', '-'] => return { v with rest }
      | '-' :: cs => do words fuel (← letters true cs { v with rest })
      | '+' :: cs => do words fuel (← letters false cs { v with rest })
      | _ => return v

/-- Take the long options, which stand before everything else. -/
def longWords : Nat → Invocation → Except Fault Invocation
  | 0, v => return v
  | fuel + 1, v =>
    match v.rest with
    | [] => return v
    | a :: rest =>
      let cs := a.toList
      let isLong := cs.take 2 == ['-', '-']
      let name := String.ofList (cs.drop (if isLong then 2 else 1))
      if cs.head? != some '-' || name = "" then return v
      else
        match longOptions.lookup name with
        | none => if isLong then throw (.badOption a) else return v
        | some true =>
          match rest with
          | [] => throw (.noArgument a)
          | _ :: rest => longWords fuel { v with rest }
        | some false =>
          match name with
          | "version" => longWords fuel { v with rest, version := true }
          | "posix" => longWords fuel { v with rest, modes := { v.modes with plainRules := true } }
          | "verbose" => longWords fuel { v with rest, modes := { v.modes with echoInput := true } }
          | _ => longWords fuel { v with rest }

def ofArguments (args : List String) : Except Fault Invocation := do
  words (args.length + 1) (← longWords (args.length + 1) { rest := args })

/-- How the program is used. -/
def usage : String :=
  "Usage:\tbash [GNU long option] [option] ...\n\tbash [GNU long option] [option] script-file ...\n" ++
    "GNU long options:\n" ++ String.join (longOptions.map fun (name, _) => "\t--" ++ name ++ "\n") ++
    "Shell options:\n\t-ilrsD or -c command or -O shopt_option\t\t(invocation only)\n" ++
    "\t-abefhkmnptuvxBCEHPT or -o option\n"

/-- What is told about a fault. -/
def Fault.message (name : String) : Fault → String
  | .badOption text => name ++ ": " ++ text ++ ": invalid option\n" ++ usage
  | .noMode mode => name ++ ": line 0: " ++ name ++ ": " ++ mode ++ ": invalid option name\n"
  | .noToggle toggle => name ++ ": line 0: " ++ toggle ++ ": invalid shell option name\n"
  | .noArgument text => name ++ ": " ++ text ++ ": option requires an argument\n"

/-! ### The first variables -/

/-- The version of the dialect. -/
def versionText : String :=
  "5.2.21(1)-release"

/-- The kind of machine. -/
def machineType : String :=
  "x86_64-pc-linux-gnu"

/-- The name before which a function is handed on. -/
def functionLead : String :=
  "BASH_FUNC_"

/-- The name of a function that a binding hands on. -/
def functionName? (name : String) : Option String :=
  let lead := functionLead.toList
  let cs := name.toList
  if lead.isPrefixOf cs && cs.drop (cs.length - 2) == ['%', '%'] then
    some (.ofList ((cs.drop lead.length).dropLast.dropLast))
  else none

/-- A binding, taken apart. -/
def nameAndText (binding : String) : String × String :=
  let cs := binding.toList
  let name := cs.takeWhile (· != '=')
  (.ofList name, .ofList (cs.drop (name.length + 1)))

/-- Give a variable a value if it has none. -/
def orValue (name value : String) (s : Shell) : Shell :=
  if (s.value? name).isSome then s else s.setValue false name value

/-- Give a variable a value, which is a number or a text that stays. -/
def fixed (isWhole : Bool) (name value : String) (s : Shell) : Shell :=
  s.setVariable name (some { value := some value, readOnly := true, isWhole })

/-- A row of values. -/
def row (name : String) (readOnly : Bool) (values : List String) (s : Shell) : Shell :=
  let items := values.zipIdx.map fun (v, i) => (i, v)
  s.setVariable name (some ({ readOnly : Variable }.withElements (.row items)))

/-- Declare variables. -/
def declaring (names : List String) (v : Variable) (s : Shell) : Shell :=
  names.foldl (fun s name => s.setVariable name (some v)) s

/-- Where further commands of the shell's own can be. -/
def loadablePath : String :=
  "/usr/local/lib/bash:/usr/lib/bash:/opt/local/lib/bash:/usr/pkg/lib/bash:/opt/pkg/lib/bash:."

/-- How many shells there are around a shell that is started. -/
def level (s : Shell) : Nat :=
  (((s.value? "SHLVL").bind (Numeral.whole? 10)).getD 0).toNat + 1

/-- What the shell is told from outside. -/
structure Surroundings where
  name : String
  /-- Where the program of the shell is. -/
  path : String
  parent : Nat
  host : String

/-- A shell that is started with bindings. -/
def ofBindings (around : Surroundings) (bindings : List String) : Shell :=
  let given := bindings.foldl (fun (s : Shell) b =>
    let (name, value) := nameAndText b
    if isName name.toList then s.setValue true name value else s) { dialect := .extended }
  let toggles := (Builtin.toggleNames.filter (·.2)).map (·.1)
  let s := { given with name := around.name, toggles }
  [orValue "_" around.name, orValue "PATH" defaultSearchPath, orValue "TERM" "dumb",
    orValue "SHELL" "/bin/bash", orValue "HOME" "/root", orValue "PS4" "+ ",
    (·.setValue false "BASH" around.path), (·.setValue false "BASH_VERSION" versionText),
    row "BASH_VERSINFO" true ["5", "2", "21", "1", "release", machineType],
    (·.setValue false "HOSTNAME" around.host), (·.setValue false "HOSTTYPE" "x86_64"),
    (·.setValue false "MACHTYPE" machineType), (·.setValue false "OSTYPE" "linux-gnu"),
    (·.setValue false "IFS" defaultSeparators), (·.setValue false "OPTERR" "1"),
    (·.setVariable "OPTIND" (some { value := some "1", isWhole := true })),
    fixed true "EUID" "0", fixed true "UID" "0", fixed true "PPID" (toString around.parent),
    declaring ["BASH_ARGV0", "BASH_COMMAND", "BASH_SUBSHELL", "COMP_WORDBREAKS", "EPOCHREALTIME",
      "EPOCHSECONDS", "LINENO", "SECONDS"] {},
    declaring ["BASHPID", "HISTCMD", "RANDOM", "SRANDOM"] { isWhole := true },
    declaring ["BASHOPTS", "SHELLOPTS"] { readOnly := true },
    declaring ["BASH_ARGC", "BASH_ARGV", "BASH_LINENO", "BASH_SOURCE", "DIRSTACK", "GROUPS"]
      { elements := some (.row []) },
    declaring ["FUNCNAME"] { elements := some (.row []), isBare := true },
    declaring ["BASH_ALIASES", "BASH_CMDS"] { elements := some (.keyed []) },
    (·.setValue false "BASH_LOADABLES_PATH" loadablePath),
    fun s => s.setValue true "SHLVL" (toString (level s))].foldl (fun s f => f s) s

/-- Take over the functions that bindings hand on. -/
def takeFunctions (inner : Inner) (bindings : List String) : Act Unit :=
  bindings.forM fun b => do
    let (name, value) := nameAndText b
    match functionName? name with
    | none => pure ()
    | some name =>
      if ("() \x7b".toList).isPrefixOf value.toList then
        let s ← get
        modify ({ · with textLabel := some name })
        let _ ← holding (runCommands inner {} false (name ++ " " ++ value))
        modify ({ · with textLabel := s.textLabel, status := 0 })
        if ((← get).functions.lookup name).isSome then
          modify fun s => { s with exportedFunctions := name :: s.exportedFunctions }
        else
          complain (s.name ++ ": error importing function definition for \x60" ++ name ++ "'")

/-! ### The script -/

/-- Read a line, byte by byte, so that nothing behind it is taken. -/
def inputLine : Nat → List Char → Act (List Char × Bool)
  | 0, cs => return (cs.reverse, true)
  | fuel + 1, cs => do
    match ← ask (.read 0 1) with
    | .ok "" | .error _ => return (cs.reverse, true)
    | .ok text =>
      let cs := text.toList.reverse ++ cs
      if text = "\n" then return (cs.reverse, false) else inputLine fuel cs

/-- Does a text need more lines, so that it can be read? -/
def isOpen (s : Shell) (text : List Char) (line : Nat) : Bool :=
  let marks := (text.reverse.drop 1).takeWhile (· == '\x5c')
  let cursor :=
    { Cursor.ofText text line with
      aliases := if s.toggles.contains "expand_aliases" then s.aliases else []
      documents := s.documents, nextDocument := s.nextDocument, groups := s.toggles.contains "extglob" }
  marks.length % 2 = 1 ||
    match Reader.nextCommand.run cursor with
    | .error fault => fault.isOpen
    | .ok (_, after) => !after.warnings.isEmpty

/-- Run what is read from standard input; `text` has been read, and begins at a line. -/
def runInput (inner : Inner) : Nat → List Char → Nat → Act Unit
  | 0, _, _ => return ()
  | fuel + 1, text, line => do
    let (more, ended) ← inputLine Process.waitLimit []
    let text := text ++ more
    if !ended && isOpen (← get) text line then runInput inner fuel text line
    else
      if !text.isEmpty then
        let _ ← runCommands inner {} true (.ofList text) line
      if !ended then runInput inner fuel [] (line + text.count '\n')

/-- Run the file that is to be run before any script, if there is one. -/
def runFirst (inner : Inner) : Act Unit := do
  let s ← get
  match s.value? "BASH_ENV" with
  | none | some "" => return ()
  | some value => do
    if s.modes.privileged || s.modes.plainRules then return ()
    let path ← expandText (Process.scripts inner) value
    match ← ask (.openFile path { reads := true }) with
    | .error _ => return ()
    | .ok fd => do
      let text ← Process.readAll fd Process.waitLimit []
      Process.close fd
      let _ ← runCommands inner {} true text
      modify ({ · with skip := none })

/-- Tell why a file cannot be run, and end. -/
def refuse (told : String) (status : Nat) : Act Unit := do
  complain ((← get).name ++ ": " ++ told)
  leaveShell status

/-- The descriptor of a script: a name without a slash can be that of a file on the search path. -/
def openScript (path : String) : Act (Except MachineFault Nat) := do
  match ← ask (.openFile path { reads := true }) with
  | .ok fd => return .ok fd
  | .error e =>
    if path.toList.contains '/' || e != .notFound then return .error e
    let found ← (Lookup.candidates ((← get).value? "PATH") path).findM? fun path => do
      match ← ask (.status path true) with
      | .ok status => return status.kind = .file
      | .error _ => return false
    match found with
    | some path => ask (.openFile path { reads := true })
    | none => return .error e

/-- Run a file with arguments. -/
def runPath (inner : Inner) (path : String) (positional : List String) : Act Unit := do
  match ← openScript path with
  | .error e => refuse (path ++ ": " ++ e.message) (if e = .notFound then 127 else 126)
  | .ok fd => do
    modify ({ · with name := path, positional })
    if ((← ask (.descriptorStatus fd)).toOption).any (·.kind = .directory) then
      refuse (path ++ ": Is a directory") 126
    let text ← Process.readAll fd Process.waitLimit []
    Process.close fd
    match ← ask (.image path) with
    | .ok (.program _) => refuse (path ++ ": cannot execute binary file") 126
    | _ => pure ()
    if Lookup.isBinary .extended text then refuse (path ++ ": cannot execute binary file") 126
    runFirst inner
    let _ ← runCommands inner {} true (.ofList (text.toList.filter (· != '\x00')))
    pure ()

/-- Run a text with arguments, of which the first is the name that the shell goes by. -/
def runArgument (inner : Inner) (text : String) (args : List String) : Act Unit := do
  modify fun s =>
    { s.setValue false "BASH_EXECUTION_STRING" text with
      name := args.headD s.name, positional := args.drop 1, isArgument := true }
  runFirst inner
  modify ({ · with textLabel := some "-c" })
  let _ ← runCommands inner { last := true, replacing := .counted } false text
  pure ()

/-- Do what arguments say. -/
def run (inner : Inner) (args : List String) : Act Unit := do
  let name := (← get).name
  match ofArguments args with
  | .error fault => do
    sayError (fault.message name)
    leaveShell 2
  | .ok v => do
    if v.version then
      say ("GNU bash, version " ++ versionText ++ " (" ++ machineType ++ ")\n")
      leaveShell 0
    modify ({ · with modes := v.modes })
    for (on, toggle) in v.toggles do
      Builtin.turnToggle on toggle
    match v.listing with
    | some asCommands => say (Builtin.listSwitches asCommands v.modes)
    | none => pure ()
    if v.letters.contains 'c' then
      match v.rest with
      | [] => refuse "-c: option requires an argument" 2
      | text :: rest => runArgument inner text rest
    else
      match if v.letters.contains 's' then none else v.rest.head? with
      | some path => runPath inner path (v.rest.drop 1)
      | none => do
        modify fun s => { s with modes := { s.modes with fromInput := true }, positional := v.rest }
        runFirst inner
        runInput inner Process.waitLimit [] 1

/-- The variable for the directory before the current one is handed on, even if there is none. -/
def markOldDirectory : Act Unit := do
  let s ← get
  let isThere ← match s.value? "OLDPWD" with
    | none => pure false
    | some path => do
      match ← ask (.status path true) with
      | .ok status => pure (status.kind = .directory)
      | .error _ => pure false
  if !isThere then set (s.setVariable "OLDPWD" (some { exported := true }))

/-- Where the program of the shell is that was started under a name. -/
def ownPath (name : String) (search : Option String) : Act String := do
  if name.toList.contains '/' then return name
  let found ← (Lookup.candidates search name).findM? fun path => do
    match ← ask (.status path true) with
    | .ok status => return status.kind = .file
    | .error _ => return false
  return found.getD name

/-- Begin: look at the surroundings, take over what is handed on, and do what the arguments say. -/
def begin (inner : Inner) (args bindings : List String) : Act Unit := do
  let path ← Shell.Start.currentPath ((← get).value? "PWD")
  modify fun s => { s.setValue true "PWD" path with path }
  markOldDirectory
  takeFunctions inner bindings
  modify ({ · with status := 0, textLabel := none })
  run inner args

end Start

/-- The shell of the extended dialect as a program. -/
def program : Program := fun launch args bindings => do
  let root ← Doing.ask .self
  let parent ← Doing.ask .parent
  let now ← Doing.ask .clock
  let inner := Eval.inner launch
  let name := args.headD "bash"
  let act : Act Unit := do
    let search := (bindings.map Start.nameAndText).lookup "PATH"
    let path ← Start.ownPath name search
    set { Start.ofBindings { name, path, parent, host := "localhost" } bindings with
      root, countedFrom := now, seed := (now / 1000000).toNat + root }
    Start.begin inner (args.drop 1) bindings
  match ← (toStatus inner act).run.run { name, dialect := .extended, root } with
  | (.ok status, _) => return status
  | (.error _, s) => return s.status

end Ensemble.Shell.Extended
