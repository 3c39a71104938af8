import Ensemble.Shell.Builtin.Directory
import Ensemble.Shell.Extended.Builtin.Basic

/-!
# Ensemble.Shell.Extended.Builtin.Places

Commands on the **current directory** and those put aside, and on what a process may do.
-/

namespace Ensemble.Shell.Extended.Builtin

/-! ### Directories -/

/-- Go to a directory, or tell why that is not possible. -/
def goTo (byPlace : Bool) (target : String) : Act Bool := do
  let s ← get
  let isEmpty := target = ""
  let path := Shell.Builtin.pathFrom s.path target
  match ← ask (.changeDirectory (if byPlace then target else path)) with
  | .ok () => do
    let path ← if byPlace && !isEmpty then ask .directory else pure path
    Shell.Builtin.assignExported "OLDPWD" s.path
    modify ({ · with path })
    Shell.Builtin.assignExported "PWD" path
    return true
  | .error e => do
    if isEmpty then return true
    complainAt (target ++ ": " ++ e.message)
    return false

/-- The paths to try for a target, and whether the one that fits is told. -/
def searched (search : Option String) (target : String) : List (String × Bool) :=
  (Shell.Builtin.cdTargets search target).map fun (path, told) =>
    if "//".toList.isPrefixOf path.toList then (.ofList (path.toList.drop 1), told) else (path, told)

def cd : Own := withOptions "LPe@" "" fun g => do
  let s ← get
  let last := (g.letters.filter fun c => c == 'L' || c == 'P').getLast?
  let byPlace := match last with | some c => c == 'P' | none => s.modes.byPlace
  if 1 < g.operands.length then
    complainAt "too many arguments"
    return 1
  let tell (shown : Bool) : Act Unit := do
    if shown then say ((← get).path ++ "\n")
  let go (target : String) (shown : Bool) : Act Nat := do
    if ← goTo byPlace target then
      tell shown
      return 0
    else return 1
  match g.operands with
  | [] =>
    match s.value? "HOME" with
    | some home => go home false
    | none => do
      complainAt "HOME not set"
      return 1
  | "-" :: _ =>
    match s.value? "OLDPWD" with
    | some before => go before true
    | none => do
      complainAt "OLDPWD not set"
      return 1
  | target :: _ => do
    let found ← if Shell.Builtin.isAnchored target then pure none
      else Shell.Builtin.firstDirectory (searched (s.value? "CDPATH") target)
    match found with
    | some (path, shown) => go path shown
    | none => go target false

def pwd : Own := withOptions "LP" "" fun g => do
  let s ← get
  let byPlace := match g.last? with | some c => c == 'P' | none => s.modes.byPlace
  let path ← if byPlace then ask .directory else pure s.path
  say (path ++ "\n")
  return 0

/-- A path, in which the home directory is told by its mark. -/
def shortened (s : Shell) (path : String) : String :=
  match s.value? "HOME" with
  | some home =>
    if home = "" || home = "/" then path
    else if path = home then "~"
    else if (home ++ "/").toList.isPrefixOf path.toList then "~" ++ .ofList (path.toList.drop home.length)
    else path
  | none => path

/-- The current directory, and those put aside behind it. -/
def allDirectories (s : Shell) : List String :=
  s.path :: s.directories

def tellDirectories : Act Unit := do
  let s ← get
  say (" ".intercalate ((allDirectories s).map (shortened s)) ++ "\n")

/-- The place in the list of directories that an argument names, from the left or from the right. -/
def placeNamed? (size : Nat) (a : String) : Option (Except Unit Nat) :=
  match a.toList with
  | mark :: ds =>
    if (mark == '+' || mark == '-') && !ds.isEmpty && ds.all Char.isDigit then
      let n := Nat.ofDigitChars 10 ds 0
      if size ≤ n then some (.error ()) else some (.ok (if mark == '+' then n else size - 1 - n))
    else none
  | [] => none

/-- Complain about a place in the list of directories. -/
def noSuchPlace (a : String) : Act α := do
  if (← get).directories.isEmpty then
    complainAt "directory stack empty"
    fail 1
  complainAt (.ofList (a.toList.drop 1) ++ ": directory stack index out of range")
  fail 1

/-- Arguments of the commands on directories: is the current one left alone, and the others? -/
def stackArguments (args : List String) : Act (Bool × List String) := do
  let (still, args) := match args with | "-n" :: rest => (true, rest) | args => (false, args)
  let args := if args.head? == some "--" then args.drop 1 else args
  return (still, args)

def pushd : Own := fun args => do
  let (still, args) ← stackArguments args
  let s ← get
  let all := allDirectories s
  /- Turn the list so that a place comes first. -/
  let turn (n : Nat) : Act Nat := do
    let turned := all.drop n ++ all.take n
    match turned with
    | first :: rest =>
      if still then
        modify ({ · with directories := rest })
      else
        if !(← goTo false first) then return 1
        modify ({ · with directories := rest })
      tellDirectories
      return 0
    | [] => return 0
  match args with
  | [] => do
    if s.directories.isEmpty then
      complainAt "no other directory"
      return 1
    let rest := s.directories.drop 1
    match s.directories.head? with
    | some next => do
      if !(← goTo false next) then return 1
      modify ({ · with directories := s.path :: rest })
      tellDirectories
      return 0
    | none => return 0
  | a :: more =>
    match placeNamed? all.length a with
    | some (.ok n) => turn n
    | some (.error ()) => noSuchPlace a
    | none => do
      if a.toList.head? == some '-' && a != "-" then misuse (a ++ ": invalid number")
      if !more.isEmpty then
        complainAt "too many arguments"
        return 1
      if still then
        modify ({ · with directories := a :: s.directories })
      else
        if !(← goTo false (if a = "-" then (s.value? "OLDPWD").getD "" else a)) then return 1
        modify ({ · with directories := s.path :: s.directories })
      tellDirectories
      return 0

def popd : Own := fun args => do
  let (still, args) ← stackArguments args
  let s ← get
  let all := allDirectories s
  let without (n : Nat) : List String := s.directories.eraseIdx (n - 1)
  let drop (n : Nat) : Act Nat := do
    if s.directories.isEmpty then
      complainAt "directory stack empty"
      return 1
    if n = 0 then
      match s.directories with
      | next :: rest =>
        if still then modify ({ · with directories := rest })
        else
          if !(← goTo false next) then return 1
          modify ({ · with directories := rest })
      | [] => pure ()
    else modify ({ · with directories := without n })
    tellDirectories
    return 0
  match args with
  | [] => drop (if still then 1 else 0)
  | a :: _ =>
    match placeNamed? all.length a with
    | some (.ok n) => drop n
    | some (.error ()) => noSuchPlace a
    | none => misuse (a ++ (if a.toList.head? == some '-' then ": invalid number" else ": invalid argument"))

def dirs : Own := fun args => do
  let s ← get
  let rec letters : List String → List Char → Act (List Char × List String)
    | [], found => return (found, [])
    | a :: rest, found =>
      match a.toList with
      | ['-', '-'] => return (found, rest)
      | '-' :: c :: cs =>
        if (c :: cs).all (['c', 'l', 'p', 'v'].contains ·) then letters rest (found ++ c :: cs)
        else return (found, a :: rest)
      | _ => return (found, a :: rest)
  let (found, rest) ← letters args []
  if found.contains 'c' then
    set { s with directories := [] }
    return 0
  let all := (allDirectories s).map fun d => if found.contains 'l' then d else shortened s d
  match rest with
  | a :: _ =>
    match placeNamed? all.length a with
    | some (.ok n) => do
      say (all.getD n "" ++ "\n")
      return 0
    | some (.error ()) => noSuchPlace a
    | none => misuse (a ++ (if a.toList.head? == some '-' then ": invalid number" else ": invalid option"))
  | [] => do
    if found.contains 'v' then
      for (d, n) in all.zipIdx do
        let number := toString n
        say ((if number.length < 2 then " " else "") ++ number ++ "  " ++ d ++ "\n")
    else if found.contains 'p' then say (String.join (all.map (· ++ "\n")))
    else say (" ".intercalate all ++ "\n")
    return 0

/-! ### Permissions -/

/-- What is wrong with clauses on permissions. -/
def modeFault (text : String) : String :=
  let rest := text.toList.dropWhile (['u', 'g', 'o', 'a'].contains ·)
  match rest with
  | op :: more =>
    if Shell.Builtin.isModeOperator op then
      let left := more.dropWhile (['r', 'w', 'x', 'X', 's', 't', 'u', 'g', 'o', '+', '-', '=', ','].contains ·)
      "\x60" ++ (left.headD ' ').toString ++ "': invalid symbolic mode character"
    else "\x60" ++ op.toString ++ "': invalid symbolic mode operator"
  | [] => "\x60 ': invalid symbolic mode operator"

def umask : Own := withOptions "pS" "" fun g => do
  let mask ← ask (.setMask 0)
  let _ ← ask (.setMask mask)
  match g.operands with
  | [] => do
    let digits := String.ofList (Nat.toDigits 8 mask)
    let shown :=
      if g.has 'S' then Shell.Builtin.maskText mask
      else .ofList (List.replicate (4 - digits.length) '0') ++ digits
    say ((if g.has 'p' then if g.has 'S' then "umask -S " else "umask " else "") ++ shown ++ "\n")
    return 0
  | a :: _ => do
    let change (new : Nat) : Act Nat := do
      let _ ← ask (.setMask new)
      if g.has 'S' then say (Shell.Builtin.maskText new ++ "\n")
      return 0
    if (a.toList.head?).any Char.isDigit then
      let n := Nat.ofDigitChars 8 a.toList 0
      if a.toList.all Shell.Builtin.isOctal && n ≤ 0o7777 then change (n % 512)
      else do
        complainAt (a ++ ": octal number out of range")
        return 1
    else
      match Shell.Builtin.changedMode (0o777 - mask) a with
      | some mode => change (0o777 - mode)
      | none => do
        complainAt (modeFault a)
        return 1

/-! ### Limits -/

/-- What is limited: its letter, what it is called, and how much there is by default. -/
def limits : List (Char × String × String) :=
  [('R', "real-time non-blocking time  (microseconds, -R) ", "unlimited"),
    ('c', "core file size              (blocks, -c) ", "0"),
    ('d', "data seg size               (kbytes, -d) ", "unlimited"),
    ('e', "scheduling priority                 (-e) ", "0"),
    ('f', "file size                   (blocks, -f) ", "unlimited"),
    ('i', "pending signals                     (-i) ", "128620"),
    ('l', "max locked memory           (kbytes, -l) ", "unlimited"),
    ('m', "max memory size             (kbytes, -m) ", "unlimited"),
    ('n', "open files                          (-n) ", "1048576"),
    ('p', "pipe size                (512 bytes, -p) ", "8"),
    ('q', "POSIX message queues         (bytes, -q) ", "819200"),
    ('r', "real-time priority                  (-r) ", "0"),
    ('s', "stack size                  (kbytes, -s) ", "8192"),
    ('t', "cpu time                   (seconds, -t) ", "unlimited"),
    ('u', "max user processes                  (-u) ", "unlimited"),
    ('v', "virtual memory              (kbytes, -v) ", "unlimited"),
    ('x', "file locks                          (-x) ", "unlimited")]

def ulimit : Own := withOptions "SHaRcdefilmnpqrstuvx" "" fun g => do
  let wanted := g.letters.filter fun c => c != 'H' && c != 'S'
  match g.operands with
  | value :: _ => do
    if value != "unlimited" && value != "hard" && value != "soft" && !value.toList.all Char.isDigit then
      complainAt (value ++ ": invalid number")
      return 1
    return 0
  | [] => do
    if wanted.contains 'a' then
      say (String.join (limits.map fun (_, name, value) => name ++ value ++ "\n"))
    else
      match wanted with
      | [] => say "unlimited\n"
      | [c] => say (((limits.lookup c).map (·.2)).getD "unlimited" ++ "\n")
      | cs =>
        for c in cs do
          match limits.lookup c with
          | some (name, value) => say (name ++ value ++ "\n")
          | none => pure ()
    return 0

end Ensemble.Shell.Extended.Builtin
