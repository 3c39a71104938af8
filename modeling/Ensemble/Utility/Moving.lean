import Ensemble.Utility.Destination

/-!
# Ensemble.Utility.Moving

**Moving** places to other names, and giving them more names: `mv`, `ln` and `link`.
-/

/-! ### Moving -/

namespace Ensemble.Utility

/-- Move a place to a path where something may be already. -/
def moveOnto (b : Bringing) (source target : String) (s : Status) (t : Option Status) : Tool Nat := do
  let aside ←
    match t with
    | none => pure ""
    | some t => do
      if s.number == t.number && b.aside.isNone then
        complain (shellQuoted source ++ " and " ++ shellQuoted target ++ " are the same file")
        return 1
      if b.onlyOlder && s.kind != .directory && s.time ≤ t.time then return 0
      if b.replacing == .never then
        complain ("not replacing " ++ shellQuoted target)
        return 1
      if b.replacing == .asked then
        if !(← isAgreed ("overwrite " ++ shellQuoted target)) then return 1
      if b.aside.isNone then
        if s.kind == .directory && t.kind != .directory then
          complain ("cannot overwrite non-directory " ++ shellQuoted target ++ " with directory " ++
            shellQuoted source)
          return 1
        if s.kind != .directory && t.kind == .directory then
          complain ("cannot overwrite directory " ++ shellQuoted target ++ " with non-directory")
          return 1
      putAside b target
  match ← ask (.rename source target) with
  | .ok _ => do
    if b.told then
      sayLine ("renamed " ++ shellQuoted source ++ " -> " ++ shellQuoted target ++ aside)
    return 0
  | .error .invalid => do
    complain ("cannot move " ++ shellQuoted source ++ " to a subdirectory of itself, " ++
      shellQuoted target)
    return 1
  | .error e => do
    if [.present, .isDirectory, .notEmpty, .noSpace].contains e then
      complainOf ("cannot overwrite " ++ shellQuoted target) e
    else
      complainOf ("cannot move " ++ shellQuoted source ++ " to " ++ shellQuoted target) e
    return 1

/-- Move an operand; is its target one of those to which something has been moved? -/
def moveOperand (b : Bringing) (source target : String) (isMade : Bool) : Tool Nat := do
  match ← ask (.status source false) with
  | .error e => do
    complainOf ("cannot stat " ++ shellQuoted source) e
    return 1
  | .ok s => do
    match ← ask (.status target false) with
    | .ok t =>
      if isMade && s.kind != .directory && b.aside.isNone then
        complain ("will not overwrite just-created " ++ shellQuoted target ++ " with " ++
          shellQuoted source)
        return 1
      moveOnto b source target s (some t)
    | .error .notFound => moveOnto b source target s none
    | .error e => do
      complainOf ("cannot stat " ++ shellQuoted target) e
      return 1

/-- Move operands, none over another. -/
def moveOperands (b : Bringing) (goal : Goal) : List String → List String → Tool Nat
  | _, [] => return 0
  | made, source :: sources => do
    let source := if b.stripped then withoutSlashes source else source
    let target := goal.pathFor source
    let status ← moveOperand b source target (made.contains target)
    return max status (← moveOperands b goal (target :: made) sources)

def mv (args : List String) : Tool Nat := do
  let (chosen, operands) ← ({
    letters := "bfint:uvS:TZ"
    words := [("no-clobber", "n"), ("strip-trailing-slashes", "strip-trailing-slashes"),
      ("update::", "update"), ("debug", "v"), ("no-copy", "no-copy"), ("context", "Z")] ++
      bringingWords } : Choices).given args
  let b := bringingOf chosen
  let (sources, goal) ← goalOf chosen operands
  moveOperands b goal [] sources

end Ensemble.Utility

/-! ### Links -/

namespace Ensemble.Utility

/-- How names are made. -/
structure Linking extends Bringing where
  symbolic : Bool := false
  relative : Bool := false
  /-- Is the source followed if it is a link? -/
  follow : Bool := false

namespace Linking

/-- The names of a path that leads through no link. -/
def namesOf (path : String) : List String :=
  let (first, more) := Text.cutBetween '/' path.toList
  ((first :: more).filter fun n => !n.isEmpty && n != ['.']).map String.ofList

/-- The way from a directory to a place. -/
def way (dir place : List String) : String :=
  match dir, place with
  | d :: ds, p :: ps =>
    if d = p then way ds ps else "/".intercalate ((d :: ds).map (fun _ => "..") ++ p :: ps)
  | ds, ps =>
    let names := ds.map (fun _ => "..") ++ ps
    if names.isEmpty then "." else "/".intercalate names

/-- The content of a link at `target` that leads to `source`. -/
def content (l : Linking) (source target : String) : Tool String := do
  if !l.relative then return source
  match ← canonical linkLimit source, ← canonical linkLimit (directoryName target) with
  | .ok place, .ok dir => return way (namesOf dir) (namesOf place)
  | _, _ => return source

/-- Make a name. -/
def one (l : Linking) (source target : String) : Tool Nat := do
  let s := (← ask (.status source (l.follow || l.symbolic))).toOption
  if !l.symbolic then
    match ← ask (.status source l.follow) with
    | .error e => do
      complainOf ("failed to access " ++ shellQuoted source) e
      return 1
    | .ok s =>
      if s.kind == .directory then
        complain (nameOf source ++ ": hard link not allowed for directory")
        return 1
  let mut aside := ""
  if l.forced || l.replacing == .asked || l.aside.isSome then
    match ← ask (.status target false) with
    | .error .notFound => pure ()
    | .error e => do
      complainOf ("failed to access " ++ shellQuoted target) e
      return 1
    | .ok t => do
      if t.kind == .directory then
        complain (nameOf target ++ ": cannot overwrite directory")
        return 1
      let isSame := match s with
        | some s => s.number == t.number && (s.links == 1 || source == target)
        | none => false
      if isSame && (l.forced || l.aside.isSome) then
        complain (shellQuoted source ++ " and " ++ shellQuoted target ++ " are the same file")
        return 1
      if l.replacing == .asked then
        if !(← isAgreed ("replace " ++ shellQuoted target)) then return 1
      aside ← putAside l.toBringing target
      if aside = "" then
        let keeps := !l.symbolic && s.any fun s => s.number == t.number
        if !keeps then
          let _ ← ask (.unlink target)
        else
          if l.told then sayLine (shellQuoted target ++ " => " ++ shellQuoted source)
          return 0
  let text ← l.content source target
  match ← if l.symbolic then ask (.makeLink text target) else ask (.link source target l.follow) with
  | .ok _ => do
    if l.told then
      sayLine ((if aside = "" then "" else shellQuoted (target ++ l.aside.getD "") ++ " ~ ") ++
        shellQuoted target ++ (if l.symbolic then " -> " else " => ") ++ shellQuoted text)
    return 0
  | .error e => do
    let what := if l.symbolic then "failed to create symbolic link " else "failed to create hard link "
    let told :=
      if l.symbolic then
        if source != "" && e != .tooLong then "" else " -> " ++ shellQuoted source
      else if e == .present || e == .noSpace then "" else " => " ++ shellQuoted source
    complainOf (what ++ shellQuoted target ++ told) e
    return 1

end Linking

def ln (args : List String) : Tool Nat := do
  let (chosen, operands) ← ({
    letters := "bdfinrst:vFLPS:T"
    words := [("directory", "F"), ("no-dereference", "n"), ("symbolic", "s"), ("logical", "L"),
      ("physical", "P"), ("relative", "r")] ++ bringingWords } : Choices).given args
  let l : Linking :=
    { bringingOf (chosen.filter (·.1 != "n")) with
      symbolic := chosen.has "s", relative := chosen.has "r"
      follow := chosen.last? ["L", "P"] == some "L" }
  let isDirectory (path : String) : Tool (Except MachineFault Unit) := do
    if chosen.has "n" then
      match ← ask (.status path false) with
      | .ok s => if s.kind == .link then return .error .notDirectory
      | .error _ => pure ()
    directoryAt path
  let into (dir : String) : List String → Tool Nat := fun sources =>
    forEach sources fun source => l.one source (below dir (baseName source))
  if operands.isEmpty then misused "missing file operand"
  match chosen.value? "t", operands with
  | some dir, sources => do
    match ← directoryAt dir with
    | .ok _ => into dir sources
    | .error e => giveUp 1 ("failed to access " ++ shellQuoted dir ++ ": " ++ e.message)
  | none, [a] =>
    if chosen.has "T" then misused ("missing destination file operand after " ++ quoted a)
    else into "." [a]
  | none, operands => do
    let sources := operands.dropLast
    let last := operands.getLast?.getD ""
    if chosen.has "T" then
      match operands with
      | [source, target] => l.one source target
      | _ => misused ("extra operand " ++ quoted (operands.getD 2 ""))
    else
      match ← isDirectory last, sources with
      | .ok _, sources => into last sources
      | .error _, [source] => l.one source last
      | .error e, _ => giveUp 1 ("target " ++ shellQuoted last ++ ": " ++ e.message)

def link (args : List String) : Tool Nat := do
  let (_, operands) ← ({} : Choices).given args
  match operands with
  | [] => misused "missing operand"
  | [a] => misused ("missing operand after " ++ quoted a)
  | [a, b] =>
    match ← ask (.link a b false) with
    | .ok _ => return 0
    | .error e => do
      complainOf ("cannot create link " ++ shellQuoted b ++ " to " ++ shellQuoted a) e
      return 1
  | _ :: _ :: extra :: _ => misused ("extra operand " ++ quoted extra)

end Ensemble.Utility
