import Ensemble.Utility.Names
import Ensemble.Utility.Question

/-!
# Ensemble.Utility.Removal

Utilities that **take away** places: `rm`, `rmdir` and `unlink`.
-/

namespace Ensemble.Utility

/-- How places are removed. -/
structure Removing where
  /-- Is it fine if nothing is there? -/
  forced : Bool := false
  /-- Are directories removed with all below them? -/
  whole : Bool := false
  /-- Are empty directories removed? -/
  empty : Bool := false
  told : Bool := false
  asks : Bool := false

namespace Removing

/-- Is a place passed over if it cannot be removed for this reason? -/
def passes (r : Removing) (e : MachineFault) : Bool :=
  r.forced && (e == .notFound || e == .notDirectory)

/-- Complain about what cannot be removed. -/
def refuse (r : Removing) (path : String) (e : MachineFault) : Tool Nat := do
  if r.passes e then return 0
  complainOf ("cannot remove " ++ shellQuoted path) e
  return 1

/-- Remove what is no directory, or an empty one. -/
def one (r : Removing) (path : String) (isDirectory : Bool) : Tool Nat := do
  match ← if isDirectory then ask (.removeDirectory path) else ask (.unlink path) with
  | .ok _ => do
    if r.told then
      sayLine ((if isDirectory then "removed directory " else "removed ") ++ shellQuoted path)
    return 0
  | .error e => r.refuse path e

/-- The path with one slash at most at its end. -/
def bare (path : String) : String :=
  let b := withoutSlashes path
  if b = path then path else b ++ "/"

/-- Remove a place with all below it. -/
def all (r : Removing) : Nat → String → Tool Nat
  | 0, path => r.refuse path .tooManyLinks
  | fuel + 1, path => do
    ask .tick
    match ← ask (.status path false) with
    | .error e => r.refuse path e
    | .ok s =>
      if s.kind != .directory then
        if r.asks then
          if !(← isAgreed ("remove " ++ kindText s ++ " " ++ shellQuoted path)) then return 0
        r.one path false
      else
        let names := match ← ask (.list path) with | .ok names => names | .error _ => []
        if !r.whole && !r.empty then r.refuse path .isDirectory
        else if !r.whole && !names.isEmpty then r.refuse path .notEmpty
        else
          if r.asks && !names.isEmpty then
            if !(← isAgreed ("descend into directory " ++ shellQuoted path)) then return 0
          let status ← forEach names fun name => all r fuel (below path name)
          if r.asks then
            let rest := match ← ask (.list path) with | .ok names => names | .error _ => []
            if !rest.isEmpty then return status
            if !(← isAgreed ("remove directory " ++ shellQuoted path)) then return status
          return max status (← r.one path true)

/-- Remove a place that is named as an operand. -/
def operand (r : Removing) (path : String) : Tool Nat := do
  let last := baseName path
  let isDirectory :=
    match ← ask (.status path false) with
    | .ok s => s.kind == .directory
    | .error _ => false
  if isDirectory && (r.whole || r.empty) && (last = "." || last = "..") then
    complain ("refusing to remove '.' or '..' directory: skipping " ++ shellQuoted path)
    return 1
  if r.whole && isDirectory then
    match ← ask (.realPath path) with
    | .ok "/" => do
      complain ("it is dangerous to operate recursively on " ++
        (if path = "/" then "'/'" else shellQuoted path ++ " (same as '/')"))
      complain "use --no-preserve-root to override this failsafe"
      return 1
    | _ => pure ()
  r.all depthLimit (bare path)

end Removing

def rm (args : List String) : Tool Nat := do
  let (chosen, operands) ← ({
    letters := "dfirvIR"
    words := [("force", "f"), ("interactive::", "W"), ("one-file-system", "O"),
      ("no-preserve-root", "O"), ("preserve-root::", "P"), ("recursive", "r"), ("dir", "d"),
      ("verbose", "v")] } : Choices).given args
  let manner :=
    match chosen.last? ["f", "i", "I", "W"] with
    | some "W" =>
      match chosen.value? "W" with
      | some "never" | some "no" | some "none" => "f"
      | some "once" => "I"
      | _ => "i"
    | some name => name
    | none => ""
  if operands.isEmpty then
    if manner = "f" then return 0
    misused "missing operand"
  let whole := chosen.has "r" || chosen.has "R"
  if manner = "I" && (whole || 3 < operands.length) then
    let count := operands.length
    let question := "remove " ++ toString count ++ (if count = 1 then " argument" else " arguments") ++
      (if whole then " recursively" else "")
    if !(← isAgreed question) then return 0
  let r : Removing :=
    { forced := manner = "f", whole, empty := chosen.has "d", told := chosen.has "v"
      asks := manner = "i" }
  forEach operands r.operand

/-- The directories to remove, the innermost first. -/
def parentsOf : Nat → String → List String
  | 0, _ => []
  | fuel + 1, path =>
    let above := directoryName path
    if above = "." || above = "/" || above = path then [] else above :: parentsOf fuel above

/-- Remove directories, as long as that is possible. -/
def removeChain (told forgiving : Bool) : Bool → List String → Tool Nat
  | _, [] => return 0
  | isFirst, path :: paths => do
    if told then sayLine ((← get).name ++ ": removing directory, " ++ shellQuoted path)
    match ← ask (.removeDirectory path) with
    | .ok _ => removeChain told forgiving false paths
    | .error e => do
      if forgiving && e == .notEmpty then return 0
      complainOf ("failed to remove " ++ (if isFirst then "" else "directory ") ++ shellQuoted path) e
      return 1

def rmdir (args : List String) : Tool Nat := do
  let (chosen, operands) ← ({
    letters := "pv"
    words := [("ignore-fail-on-non-empty", "I"), ("parents", "p"), ("verbose", "v")] } :
    Choices).given args
  if operands.isEmpty then misused "missing operand"
  forEach operands fun path => do
    let bare := withoutSlashes path
    let above := if chosen.has "p" then parentsOf bare.length bare else []
    removeChain (chosen.has "v") (chosen.has "I") true (path :: above)

def unlink (args : List String) : Tool Nat := do
  let (_, operands) ← ({} : Choices).given args
  match operands with
  | [] => misused "missing operand"
  | [path] =>
    match ← ask (.unlink path) with
    | .ok _ => return 0
    | .error e => do
      complainOf ("cannot unlink " ++ shellQuoted path) e
      return 1
  | _ :: extra :: _ => misused ("extra operand " ++ quoted extra)

end Ensemble.Utility
