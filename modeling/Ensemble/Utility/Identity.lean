import Ensemble.Machine.Furniture
import Ensemble.Shell.Lookup
import Ensemble.Utility.Starting
import Ensemble.Utility.Options

/-!
# Ensemble.Utility.Identity

Utilities that tell **who and where one is**: `id`, `whoami`, `groups`, `logname`, `tty`, `uname`, `arch`,
`hostname`, `nproc`, `users`, `which` and `getent`. Whoever asks is the first user of the machine.
-/

namespace Ensemble.Utility

/-- There must be no operands, or so many at most. -/
def atMost (count : Nat) (operands : List String) : Tool Unit := do
  match operands.drop count with
  | extra :: _ => misused ("extra operand " ++ quoted extra)
  | [] => pure ()

/-- A user by name or number: name, number and group. -/
def userNamed? (name : String) : Option (String × Nat × Nat) :=
  (Tree.users.find? fun u => u.1 == name || some u.2.1 == name.toNat?).map fun u => (u.1, u.2.1, u.2.2.1)

def groupName (number : Nat) : String :=
  ((Tree.groups.find? fun g => g.2 == number).map (·.1)).getD (toString number)

/-- Tell what a user is known by. -/
def tellUser (chosen : Chosen) (user : String × Nat × Nat) : Tool Unit := do
  let (name, number, group) := user
  let ending := if chosen.has "z" then "\x00" else "\n"
  let byName := chosen.has "n"
  if chosen.has "u" then say ((if byName then name else toString number) ++ ending)
  else if chosen.has "g" || chosen.has "G" then
    say ((if byName then groupName group else toString group) ++ ending)
  else
    let grouped := toString group ++ "(" ++ groupName group ++ ")"
    say ("uid=" ++ toString number ++ "(" ++ name ++ ") gid=" ++ grouped ++ " groups=" ++ grouped ++ "\n")

def id (args : List String) : Tool Nat := do
  let (chosen, operands) ← ({
    letters := "agnruzGZ"
    words := [("context", "Z"), ("group", "g"), ("groups", "G"), ("name", "n"), ("real", "r"),
      ("user", "u"), ("zero", "z")] } : Choices).given args
  let kinds := ["u", "g", "G", "Z"].filter chosen.has
  if 1 < kinds.length then giveUp 1 "cannot print \"only\" of more than one choice"
  if kinds.isEmpty && (chosen.has "n" || chosen.has "r") then
    giveUp 1 "cannot print only names or real IDs in default format"
  if kinds.isEmpty && chosen.has "z" then giveUp 1 "option --zero not permitted in default format"
  if chosen.has "Z" then giveUp 1 "--context (-Z) works only on an SELinux-enabled kernel"
  if operands.isEmpty then
    tellUser chosen ("root", 0, 0)
    return 0
  forEach operands fun name => do
    match userNamed? name with
    | some user => do
      tellUser chosen user
      return 0
    | none => do
      complain (shellQuoted name ++ ": no such user")
      return 1

def whoami (args : List String) : Tool Nat := do
  let (_, operands) ← ({} : Choices).given args
  atMost 0 operands
  sayLine "root"
  return 0

def logname (args : List String) : Tool Nat := do
  let (_, operands) ← ({} : Choices).given args
  atMost 0 operands
  giveUp 1 "no login name"

def groups (args : List String) : Tool Nat := do
  let (_, operands) ← ({} : Choices).given args
  if operands.isEmpty then
    sayLine "root"
    return 0
  forEach operands fun name => do
    match userNamed? name with
    | some (name, _, group) => do
      sayLine (name ++ " : " ++ groupName group)
      return 0
    | none => do
      complain (shellQuoted name ++ ": no such user")
      return 1

def tty (args : List String) : Tool Nat := do
  let (chosen, operands) ←
    ({ letters := "s", words := [("silent", "s"), ("quiet", "s")] } : Choices).given args
  atMost 0 operands
  if !chosen.has "s" then sayLine "not a tty"
  return 1

/-- The parts of the name of the machine by the letters of options. -/
def machineParts : List (String × String) :=
  [("s", "Linux"), ("n", "localhost"), ("r", "6.1.0"), ("v", "#1 SMP PREEMPT_DYNAMIC"),
    ("m", "x86_64"), ("p", "unknown"), ("i", "unknown"), ("o", "GNU/Linux")]

def uname (args : List String) : Tool Nat := do
  let (chosen, operands) ← ({
    letters := "asnrvmpio"
    words := [("all", "a"), ("kernel-name", "s"), ("nodename", "n"), ("kernel-release", "r"),
      ("kernel-version", "v"), ("machine", "m"), ("processor", "p"), ("hardware-platform", "i"),
      ("operating-system", "o")] } : Choices).given args
  atMost 0 operands
  let isWanted (part : String × String) : Bool :=
    if chosen.has "a" then part.2 != "unknown"
    else chosen.has part.1 || chosen.isEmpty && part.1 == "s"
  sayLine (" ".intercalate ((machineParts.filter isWanted).map (·.2)))
  return 0

def arch (args : List String) : Tool Nat := do
  let (_, operands) ← ({} : Choices).given args
  atMost 0 operands
  sayLine "x86_64"
  return 0

def hostname (args : List String) : Tool Nat := do
  let (_, operands) ← ({ letters := "fs" } : Choices).given args
  if operands.isEmpty then
    sayLine "localhost"
    return 0
  giveUp 1 "you must be root to change the host name"

def nproc (args : List String) : Tool Nat := do
  let (_, operands) ← ({ words := [("all", "all"), ("ignore:", "ignore")] } : Choices).given args
  atMost 0 operands
  sayLine "4"
  return 0

def users (args : List String) : Tool Nat := do
  let (_, operands) ← ({} : Choices).given args
  atMost 1 operands
  return 0

/-- Where a program is found, at all places. -/
def placesOf (name : String) : Tool (List String) := do
  let isProgram (path : String) : Tool Bool := do
    match ← ask (.status path true) with
    | .ok s => return s.kind == .file && s.mode &&& 0o111 != 0
    | .error _ => return false
  let search := (← bindingOf? "PATH").getD usualPath
  let candidates :=
    if name.toList.contains '/' then [name] else Shell.Lookup.candidates (some search) name
  candidates.filterM isProgram

def which (args : List String) : Tool Nat := do
  let (chosen, operands) ← ({ letters := "as" } : Choices).given args
  if operands.isEmpty then return 1
  forEach operands fun name => do
    let places ← placesOf name
    if !chosen.has "s" then
      for place in if chosen.has "a" then places else places.take 1 do sayLine place
    return if places.isEmpty then 1 else 0

/-- The lines of a list of the machine in which a key is the first or the third field. -/
def getent (args : List String) : Tool Nat := do
  let (_, operands) ← ({} : Choices).given args
  match operands with
  | [] => do
    complain "wrong number of arguments"
    return 1
  | database :: keys => do
    if !(["passwd", "group", "hosts", "shells"].contains database) then
      sayError ("Unknown database: " ++ database ++ "\n")
      return 1
    match ← contentOf ("/etc/" ++ database) with
    | .notOpened _ | .notRead _ => return 2
    | .text s => do
      let lines := linesOf s
      let fields (line : String) : List String :=
        let (first, more) := Text.cutBetween ':' line.toList
        (first :: more).map String.ofList
      if keys.isEmpty then
        for line in lines do sayLine line
        return 0
      forEach keys fun key => do
        match lines.find? fun l => (fields l).head? == some key || (fields l)[2]? == some key with
        | some line => do
          sayLine line
          return 0
        | none => return 2

end Ensemble.Utility
