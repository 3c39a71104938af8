import Ensemble.Utility.Mode
import Ensemble.Utility.Names
import Ensemble.Utility.Question

/-!
# Ensemble.Utility.Destination

**Where things go** that are copied, moved or linked: to one path, or into a directory under their own
last names. What is there already can be replaced, kept, asked about, or put aside under another name.
-/

namespace Ensemble.Utility

/-- What is done if there is something already. -/
inductive Replacing
  | always
  | never
  | asked
deriving DecidableEq, Repr

/-- How things are brought to where they go. -/
structure Bringing where
  told : Bool := false
  replacing : Replacing := .always
  forced : Bool := false
  /-- Is only replaced what is older? -/
  onlyOlder : Bool := false
  /-- What is put behind the name of what is put aside. -/
  aside : Option String := none
  /-- Is a slash at the end of a source left out? -/
  stripped : Bool := false

/-- The words of options that are the same for all who bring things somewhere. -/
def bringingWords : List (String × String) :=
  [("backup::", "backup"), ("force", "f"), ("interactive", "i"), ("no-target-directory", "T"),
    ("suffix:", "S"), ("target-directory:", "t"), ("verbose", "v")]

/-- How things are brought, by the options. -/
def bringingOf (chosen : Chosen) : Bringing where
  told := chosen.has "v"
  forced := chosen.has "f"
  replacing :=
    match chosen.last? ["f", "i", "n"] with
    | some "i" => .asked
    | some "n" => .never
    | _ => .always
  onlyOlder :=
    match chosen.last? ["u", "update"] with
    | some "u" => true
    | some _ => chosen.value? "update" == some "older" || chosen.value? "update" == some ""
    | none => false
  aside :=
    if chosen.has "b" || chosen.has "S" ||
        (chosen.has "backup" && !(["none", "off"].contains ((chosen.value? "backup").getD ""))) then
      some ((chosen.value? "S").getD "~")
    else none
  stripped := chosen.has "strip-trailing-slashes"

/-- Where things go. -/
inductive Goal
  | path (p : String)
  | directory (dir : String)
deriving Repr

/-- Is there a directory at a path? If not, why? -/
def directoryAt (path : String) : Tool (Except MachineFault Unit) := do
  match ← ask (.status path true) with
  | .ok s => return if s.kind == .directory then .ok () else .error .notDirectory
  | .error e => return .error e

/-- The sources, and where they go. -/
def goalOf (chosen : Chosen) (operands : List String) : Tool (List String × Goal) := do
  let into := chosen.value? "t"
  let exact := chosen.has "T"
  match operands, into with
  | [], _ => misused "missing file operand"
  | [a], none => misused ("missing destination file operand after " ++ quoted a)
  | _, _ => pure ()
  if exact then
    if into.isSome then
      giveUp 1 "cannot combine --target-directory (-t) and --no-target-directory (-T)"
    match operands with
    | _ :: _ :: extra :: _ => misused ("extra operand " ++ quoted extra)
    | _ => pure ()
  match into, operands.getLast? with
  | some dir, _ => do
    match ← directoryAt dir with
    | .ok _ => return (operands, .directory dir)
    | .error e => giveUp 1 ("target directory " ++ shellQuoted dir ++ ": " ++ e.message)
  | none, some last => do
    if exact then return (operands.dropLast, .path last)
    match ← directoryAt last with
    | .ok _ => return (operands.dropLast, .directory last)
    | .error e =>
      if 2 < operands.length then giveUp 1 ("target " ++ shellQuoted last ++ ": " ++ e.message)
      else return (operands.dropLast, .path last)
  | none, none => misused "missing file operand"

/-- The path that a source gets. -/
def Goal.pathFor (g : Goal) (source : String) : String :=
  match g with
  | .path p => p
  | .directory dir =>
    let name := baseName source
    below dir (if name = ".." then "." else name)

/-- Put aside what is at a path; the answer is what is told about it. -/
def putAside (b : Bringing) (path : String) : Tool String := do
  match b.aside with
  | none => return ""
  | some suffix => do
    match ← ask (.rename path (path ++ suffix)) with
    | .ok _ => return " (backup: " ++ shellQuoted (path ++ suffix) ++ ")"
    | .error _ => return ""

end Ensemble.Utility
