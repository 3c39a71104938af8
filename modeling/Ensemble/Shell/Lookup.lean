import Ensemble.Shell.Redirection

/-!
# Ensemble.Shell.Lookup

**Looking up commands**: what the name of a command stands for, and going on as the program that it
stands for. A program is looked for in the directories of a search path; where one has been found is
kept in mind until the path changes.
-/

namespace Ensemble.Shell

/-- The commands of the shell's own that are found before anything is looked for. -/
def regularCommands : List String :=
  ["alias", "bg", "cd", "chdir", "command", "false", "fg", "getopts", "jobs", "kill", "pwd", "read",
    "true", "type", "ulimit", "umask", "unalias", "wait"]

/-- The commands of the shell's own that programs stand beside. -/
def plainCommands : List String :=
  ["[", "echo", "hash", "printf", "test"]

/-- The commands of the shell's own in the extended dialect. -/
def extendedCommands : List String :=
  [".", ":", "[", "alias", "bg", "bind", "break", "builtin", "caller", "cd", "command", "compgen", "complete",
    "compopt", "continue", "declare", "dirs", "disown", "echo", "enable", "eval", "exec", "exit", "export",
    "false", "fc", "fg", "getopts", "hash", "help", "history", "jobs", "kill", "let", "local", "logout",
    "mapfile", "popd", "printf", "pushd", "pwd", "read", "readarray", "readonly", "return", "set", "shift",
    "shopt", "source", "suspend", "test", "times", "trap", "true", "type", "typeset", "ulimit", "umask",
    "unalias", "unset", "wait"]

/-- Is this a command of the shell's own? -/
def Dialect.isOwn (d : Dialect) (name : String) : Bool :=
  match d with
  | .plain =>
    specialCommands.contains name || regularCommands.contains name || plainCommands.contains name
  | .extended => extendedCommands.contains name

/-- What the name of a command stands for. -/
inductive Meaning
  | function (body : Command)
  | own
  /-- A program at the first of these paths, or else at another. -/
  | program (paths : List String)
  | unknown

namespace Lookup

/-- The paths at which a file can be, in the order in which they are tried. -/
def candidates (search : Option String) (name : String) : List String :=
  match search with
  | none => []
  | some search =>
    let (d, ds) := Text.cutBetween ':' search.toList
    (d :: ds).map fun d => if d = [] then name else .ofList d ++ "/" ++ name

/-- A function or a command of the shell's own. -/
def inside? (s : Shell) (functions : Bool) (name : String) : Option Meaning :=
  match if functions then s.functions.lookup name else none with
  | some body => some (.function body)
  | none => if s.dialect.isOwn name && !s.disabled.contains name then some .own else none

/-- The first of the paths at which there is a program, and all behind it; or the reason why there
is none. -/
def search : MachineFault → List String → Act (Except MachineFault (List String))
  | reason, [] => return .error reason
  | reason, path :: paths => do
    match ← ask (.status path true) with
    | .error .notFound | .error .notDirectory => search reason paths
    | .error e => search e paths
    | .ok status =>
      if status.kind = .file && (status.mode &&& 0o111) != 0 then return .ok (path :: paths)
      else search .notPermitted paths

/-- Keep in mind where a program has been found. -/
def track (name path : String) : Act Unit :=
  modify fun s =>
    if (s.tracked.lookup name).isSome then
      { s with tracked := s.tracked.map fun (n, old) => if n == name then (n, path, false) else (n, old) }
    else { s with tracked := s.tracked ++ [(name, path, false)] }

/-- Forget where a program was found. -/
def forget (name : String) : Act Unit :=
  modify fun s => { s with tracked := s.tracked.filter (·.1 != name) }

/-- Where programs have been found is to be looked for once more. -/
def doubt : Act Unit :=
  modify fun s => { s with tracked := s.tracked.map fun (name, path, _) => (name, path, true) }

/-- The reason why a command cannot be run. -/
def reason (d : Dialect) (e : MachineFault) : String :=
  match d, e with
  | .plain, .notFound | .plain, .notDirectory => "not found"
  | .extended, .notFound | .extended, .notDirectory => "command not found"
  | _, e => e.message

/-- Look for a program; on another path than the one that counts, nothing is kept in mind. If there is
none, that can be told. -/
def program (tells : Bool) (other : Option String) (name : String) : Act Meaning := do
  let s ← get
  let paths := candidates (other <|> s.value? "PATH") name
  match if other.isNone then s.tracked.lookup name else none with
  | some (found, false) => return .program (paths.dropWhile (· != found))
  | _ => do
    match ← search .notFound paths with
    | .ok found => do
      if other.isNone then track name (found.headD name)
      return .program found
    | .error e => do
      if other.isNone then forget name
      if tells then complainAt (name ++ ": " ++ reason s.dialect e)
      return .unknown

/-- What the name of a command stands for. -/
def meaning (functions tells : Bool) (other : Option String) (name : String) : Act Meaning := do
  if name.toList.contains '/' then return .program [name]
  match inside? (← get) functions name with
  | some m => return m
  | none => program tells other name

/-! ### Going on as a program -/

/-- How much of a file is looked at to tell whether it is a text. -/
def sampleSize : Nat := 128

/-- Does a file that begins like this look like no text? Its first line has characters then that no
text has. -/
def isBinary (d : Dialect) (head : String) : Bool :=
  let line := (head.toList.take sampleSize).takeWhile (· != '\n')
  line.any fun c =>
    let n := c.toNat
    match d with
    | .plain => n = 0x7F || (n < 0x20 && n != 0x1B && (n < 0x9 || 0xF < n))
    | .extended => n = 0

/-- Go on as the program at a path. A text that names no program that reads it is read by a shell. -/
def launch (inner : Inner) (path : String) (args : List String) : Act MachineFault := do
  let bindings := ((← get).environment path).map fun (name, value) => name ++ "=" ++ value
  let go (path : String) (args : List String) : Act MachineFault :=
    ExceptT.lift (StateT.lift (inner.launch path args bindings))
  let reader := match (← get).dialect with | .plain => "/bin/sh" | .extended => "/bin/bash"
  let e ← go path args
  if e != .badFormat || path = reader then return e
  match ← ask (.image path) with
  | .ok (.text head) =>
    if isBinary (← get).dialect head then return e else go reader (reader :: path :: args.drop 1)
  | _ => return e

/-- Go on as the first program of these paths that can be started, or else end the shell. -/
def become (inner : Inner) (args : List String) : MachineFault → List String → Act α
  | e, [] => do
    let status := if [.notFound, .notDirectory, .tooManyLinks, .tooLong].contains e then 127 else 126
    complainAt (args.headD "" ++ ": " ++ reason (← get).dialect e)
    leaveShell status
  | reason, path :: paths => do
    match ← launch inner path args with
    | .notFound | .notDirectory => become inner args reason paths
    | e => become inner args e paths

end Lookup

end Ensemble.Shell
