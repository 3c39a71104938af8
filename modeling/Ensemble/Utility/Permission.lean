import Ensemble.Utility.Mode
import Ensemble.Utility.Removal

/-!
# Ensemble.Utility.Permission

Changing the **modes** of files: `chmod`.
-/

namespace Ensemble.Utility

/-- How modes are changed. -/
structure Permitting where
  changes : List ModeChange
  mask : Nat
  /-- Are complaints left out? -/
  quiet : Bool := false
  /-- Is told what is changed, and also what is not? -/
  changesTold : Bool := false
  allTold : Bool := false
  /-- Was the change given where it looks like an option? -/
  asOption : Bool := false
  whole : Bool := false

namespace Permitting

/-- A mode in digits and letters. -/
def text (mode : Nat) : String :=
  modeDigits mode ++ " (" ++ modeLetters mode ++ ")"

/-- Change the mode of a place. -/
def one (p : Permitting) (path : String) (s : Status) : Tool Nat := do
  let isDirectory := s.kind == .directory
  let old := s.mode % 4096
  let new := ModeChange.applyAll isDirectory p.mask old p.changes
  match ← ask (.setMode path new) with
  | .error e => do
    if !p.quiet then complainOf ("changing permissions of " ++ shellQuoted path) e
    return 1
  | .ok _ => do
    if new != old then
      if p.allTold || p.changesTold then
        sayLine ("mode of " ++ shellQuoted path ++ " changed from " ++ text old ++ " to " ++ text new)
    else if p.allTold then
      sayLine ("mode of " ++ shellQuoted path ++ " retained as " ++ text new)
    let meant := ModeChange.applyAll isDirectory 0 old p.changes
    if p.asOption && bitsWithout new meant != 0 then
      complain (nameOf path ++ ": new permissions are " ++ modeLetters new ++ ", not " ++
        modeLetters meant)
      return 1
    return 0

/-- Change the modes of a place and of what is below it. -/
def all (p : Permitting) : Nat → Bool → String → Tool Nat
  | 0, _, _ => return 1
  | fuel + 1, isOperand, path => do
    match ← ask (.status path false) with
    | .error e => do
      if !p.quiet then complainOf ("cannot access " ++ shellQuoted path) e
      return 1
    | .ok s =>
      if s.kind == .link then
        if !isOperand then return 0
        match ← ask (.status path true) with
        | .ok s => p.one path s
        | .error e => do
          if !p.quiet then
            if e == .notFound then
              complain ("cannot operate on dangling symlink " ++ shellQuoted path)
            else complainOf ("cannot access " ++ shellQuoted path) e
          return 1
      else do
        let status ← p.one path s
        if p.whole && s.kind == .directory then
          match ← ask (.list path) with
          | .ok names =>
            return max status (← forEach names fun name => all p fuel false (below path name))
          | .error e => do
            if !p.quiet then complainOf ("cannot read directory " ++ shellQuoted path) e
            return 1
        else return status

end Permitting

def chmod (args : List String) : Tool Nat := do
  let (chosen, operands) ← ({
    letters := "Rcfvr::w::x::X::s::t::u::g::o::a::,::+::=::0::1::2::3::4::5::6::7::"
    words := [("changes", "c"), ("recursive", "R"), ("no-preserve-root", "N"),
      ("preserve-root", "P"), ("quiet", "f"), ("silent", "f"), ("reference:", "reference"),
      ("verbose", "v")] } : Choices).given args
  let asOptions := chosen.reverse.filter fun (name, _) =>
    name.length == 1 && !(["R", "c", "f", "v", "N", "P"].contains name)
  let given := ",".intercalate (asOptions.map fun (name, rest) => "-" ++ name ++ rest)
  let reference := chosen.value? "reference"
  let (text, paths) :=
    if reference.isSome then (none, operands)
    else if given != "" then (some given, operands)
    else (operands.head?, operands.drop 1)
  if paths.isEmpty then
    match text with
    | some t => if given = "" then misused ("missing operand after " ++ quoted t)
    | none => pure ()
    misused "missing operand"
  let mask ← ask (.setMask 0)
  let _ ← ask (.setMask mask)
  let changes : List ModeChange ←
    match reference, text with
    | some path, _ => do
      match ← ask (.status path true) with
      | .ok s => pure [⟨.set, .bits, allBits, s.mode % 4096, allBits⟩]
      | .error e => giveUp 1 ("failed to get attributes of " ++ shellQuoted path ++ ": " ++ e.message)
    | none, text =>
      match ModeChange.ofString? (text.getD "") with
      | some changes => pure changes
      | none => misused ("invalid mode: " ++ quoted (text.getD ""))
  let p : Permitting :=
    { changes, mask, quiet := chosen.has "f", changesTold := chosen.has "c", allTold := chosen.has "v"
      asOption := given != "", whole := chosen.has "R" }
  forEach paths (p.all depthLimit true)

end Ensemble.Utility
