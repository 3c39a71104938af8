import Ensemble.Machine.Tree
import Ensemble.Shell.Builtin.Basic
import Ensemble.Shell.Lookup

/-!
# Ensemble.Shell.Builtin.Directory

Commands on the **current directory**, and on what a process may do.
-/

namespace Ensemble.Shell.Builtin

/-! ### Directories -/

/-- The root that a path begins with. Two slashes at the beginning are one of their own. -/
def rootOf (path : List Char) : String :=
  match path with
  | '/' :: '/' :: '/' :: _ => "/"
  | '/' :: '/' :: _ => "//"
  | _ => "/"

/-- The path that one comes to from a directory, without looking at the tree. -/
def pathFrom (current target : String) : String :=
  let isAbsolute := target.toList.head? == some '/'
  let root := rootOf (if isAbsolute then target else current).toList
  let start := if isAbsolute then [] else Tree.names current
  let names := (Tree.names target).foldl (fun names name =>
    match name with
    | "." => names
    | ".." => names.dropLast
    | name => names ++ [name]) start
  root ++ "/".intercalate names

/-- Assign to a variable that commands get to know. -/
def assignExported (name value : String) : Act Unit :=
  assignWith ({ · with exported := true }) name (some value)

/-- Change the directory to a path; is that possible? By its place in the tree, the path is the one
that leads through no link. -/
def changeTo (byPlace : Bool) (target : String) : Act Bool := do
  let s ← get
  let path := pathFrom s.path target
  match ← ask (.changeDirectory (if byPlace then target else path)) with
  | .error _ => return false
  | .ok () => do
    let path ← if byPlace then ask .directory else pure path
    assignExported "OLDPWD" s.path
    modify fun s => { s with path }
    assignExported "PWD" path
    Lookup.doubt
    return true

/-- Does a path say where it is looked for? -/
def isAnchored (target : String) : Bool :=
  match (Text.cutBetween '/' target.toList).1 with
  | [] => target != ""
  | first => first = ['.'] || first = ['.', '.']

/-- The paths to try for a target, and whether the one that fits is told. -/
def cdTargets (search : Option String) (target : String) : List (String × Bool) :=
  match search with
  | none => []
  | some search =>
    let (d, ds) := Text.cutBetween ':' search.toList
    (d :: ds).map fun d =>
      if d = [] then (target, false) else (.ofList d ++ "/" ++ target, true)

/-- The first of these that is a directory. -/
def firstDirectory : List (String × Bool) → Act (Option (String × Bool))
  | [] => return none
  | (path, told) :: others => do
    match ← ask (.status path true) with
    | .ok s => if s.kind = .directory then return some (path, told) else firstDirectory others
    | .error _ => firstDirectory others

def cd : Own := .withOptions "LP" "" fun g => do
  let s ← get
  let byPlace := g.last? == some 'P'
  let (target, told) : Option String × Bool :=
    match g.operands with
    | [] => (s.value? "HOME", false)
    | "-" :: _ => (s.value? "OLDPWD", true)
    | a :: _ => (some a, false)
  let target := target.getD ""
  let sought := if target = "" then "." else target
  let found ← if isAnchored target then pure none
    else firstDirectory (cdTargets (s.value? "CDPATH") sought)
  let (path, shown) := found.getD (sought, false)
  if ← changeTo byPlace path then
    if told || shown then say ((← get).path ++ "\n")
    return 0
  else giveUp ("can't cd to " ++ target)

def pwd : Own := .withOptions "LP" "" fun g => do
  let path ← if g.last? == some 'P' then ask .directory else pure (← get).path
  say (path ++ "\n")
  return 0

/-! ### Permissions -/

/-- The permissions that a mask leaves, by the classes of users. -/
def maskText (mask : Nat) : String :=
  let letters (bits : Nat) : String :=
    (if bits / 4 % 2 = 0 then "r" else "") ++ (if bits / 2 % 2 = 0 then "w" else "") ++
      (if bits % 2 = 0 then "x" else "")
  "u=" ++ letters (mask / 64) ++ ",g=" ++ letters (mask / 8) ++ ",o=" ++ letters mask

/-- The bits of a class of users. -/
def classBits (c : Char) : Nat :=
  match c with
  | 'u' => 0o700
  | 'g' => 0o070
  | 'o' => 0o007
  | _ => 0o777

/-- The same permissions for every class of users. -/
def spread (bits : Nat) : Nat :=
  bits * 0o111

/-- The permissions that letters stand for, given those that there are. -/
def letterBits (now : Nat) (letters : List Char) : Nat :=
  letters.foldl (fun bits c => bits ||| match c with
    | 'r' => 0o444
    | 'w' => 0o222
    | 'x' => 0o111
    | 'X' => if (now &&& 0o111) != 0 then 0o111 else 0
    | 'u' => spread (now / 64 % 8)
    | 'g' => spread (now / 8 % 8)
    | 'o' => spread (now % 8)
    | _ => 0) 0

def isModeOperator (c : Char) : Bool :=
  c == '+' || c == '-' || c == '='

/-- Carry out the operators of a clause. -/
def modeOperators (who : Nat) : Nat → Nat → List Char → Option Nat
  | 0, _, _ => none
  | _, now, [] => some now
  | fuel + 1, now, c :: cs =>
    let letters := cs.takeWhile (['r', 'w', 'x', 'X', 's', 'u', 'g', 'o'].contains ·)
    let bits := letterBits now letters &&& who
    let rest := cs.drop letters.length
    if c == '+' then modeOperators who fuel (now ||| bits) rest
    else if c == '-' then modeOperators who fuel (now - (now &&& bits)) rest
    else if c == '=' then modeOperators who fuel (now - (now &&& who) ||| bits) rest
    else none

/-- Carry out clauses on permissions. -/
def modeClauses : Nat → List (List Char) → Option Nat
  | now, [] => some now
  | now, clause :: clauses => do
    let classes := clause.takeWhile (['u', 'g', 'o', 'a'].contains ·)
    let who := if classes.isEmpty then 0o777 else classes.foldl (fun w c => w ||| classBits c) 0
    let operators := clause.drop classes.length
    if operators.isEmpty then none
    let now ← modeOperators who (operators.length + 1) now operators
    modeClauses now clauses

/-- The permissions that a text makes of others. -/
def changedMode (now : Nat) (text : String) : Option Nat :=
  let (first, more) := Text.cutBetween ',' text.toList
  let clauses := first :: more
  modeClauses now (if 1 < clauses.length && clauses.getLast? = some [] then clauses.dropLast else clauses)

def isOctal (c : Char) : Bool :=
  '0' ≤ c && c ≤ '7'

def umask : Own := .withOptions "S" "" fun g => do
  let mask ← ask (.setMask 0)
  let _ ← ask (.setMask mask)
  match g.operands with
  | [] => do
    let digits := String.ofList (Nat.toDigits 8 mask)
    say ((if g.has 'S' then maskText mask
      else .ofList (List.replicate (4 - digits.length) '0') ++ digits) ++ "\n")
    return 0
  | a :: _ => do
    let new ←
      if (a.toList.head?).any Char.isDigit then
        if a.toList.all isOctal then pure (Nat.ofDigitChars 8 a.toList 0 % 512)
        else giveUp ("Illegal number: " ++ a)
      else
        match changedMode (0o777 - mask) a with
        | some mode => pure (0o777 - mode)
        | none => giveUp ("Illegal mode: " ++ a)
    let _ ← ask (.setMask new)
    return 0

/-! ### Limits -/

/-- What is limited: its letter, and how much there is by default. -/
def limits : List (Char × String × String) :=
  [('t', "time(seconds)", "unlimited"), ('f', "file(blocks)", "unlimited"),
    ('d', "data(kbytes)", "unlimited"), ('s', "stack(kbytes)", "8192"),
    ('c', "coredump(blocks)", "0"), ('m', "memory(kbytes)", "unlimited"),
    ('l', "locked memory(kbytes)", "unlimited"), ('p', "process", "unlimited"),
    ('n', "nofiles", "1048576"), ('v', "vmemory(kbytes)", "unlimited"),
    ('w', "locks", "unlimited"), ('r', "rtprio", "0")]

def ulimit : Own := .withOptions "HSatfdscmlpnvwr" "" fun g => do
  let wanted := (g.letters.filter fun c => c != 'H' && c != 'S').getLastD 'f'
  match g.operands with
  | _ :: _ :: _ => giveUp "too many arguments"
  | [value] =>
    if value != "unlimited" && !value.toList.all Char.isDigit then giveUp "bad number"
    return 0
  | [] =>
    if wanted = 'a' then
      say (String.join (limits.map fun (_, name, value) =>
        name ++ .ofList (List.replicate (21 - name.length) ' ') ++ value ++ "\n"))
    else say (((limits.lookup wanted).map (·.2)).getD "unlimited" ++ "\n")
    return 0

end Ensemble.Shell.Builtin
