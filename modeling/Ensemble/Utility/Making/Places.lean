import Ensemble.Shell.Pattern
import Ensemble.Utility.Making.Book

/-!
# Ensemble.Utility.Making.Places

**Where files are**: the files that a pattern of paths stands for, the age of a file, and the other
directories in which a file is looked for that is not where its name says.
-/

namespace Ensemble.Utility.Making

/-! ### Patterns of paths -/

def isPathPattern (name : List Char) : Bool :=
  name.any fun c => c == '*' || c == '?' || c == '['

def hasDirectory (path : String) : Making Bool := do
  match ← ask (.status path true) with
  | .ok st => return st.kind == .directory
  | .error _ => return false

def hasFile (path : String) : Making Bool := do
  match ← ask (.status path false) with
  | .ok _ => return true
  | .error _ => return false

/-- The names in a directory that a pattern fits. -/
def fittingNames (dir : String) (pattern : List Char) : Making (List String) := do
  match ← ask (.list (if dir = "" then "." else dir)) with
  | .error _ => return []
  | .ok found =>
    let isHidden := pattern.head? == some '.'
    let found := if isHidden then "." :: ".." :: found else found
    return found.filter fun f =>
      Shell.Pattern.isMatch pattern f.toList && (isHidden || f.toList.head? != some '.')

/-- The paths below a directory that the parts of a pattern stand for. -/
def pathsBelow : List (List Char) → String → Making (List String)
  | [], dir => return [dir]
  | [last], dir => do
    if last.isEmpty then return if ← hasDirectory dir then [dir] else []
    if isPathPattern last then return (← fittingNames dir last).map (dir ++ ·)
    let path := dir ++ String.ofList (Shell.Pattern.plainText last)
    return if ← hasFile path then [path] else []
  | part :: parts, dir => do
    if isPathPattern part then
      let mut found : List String := []
      for name in ← fittingNames dir part do
        if ← hasDirectory (dir ++ name) then
          found := found ++ (← pathsBelow parts (dir ++ name ++ "/"))
      return found
    else pathsBelow parts (dir ++ String.ofList (Shell.Pattern.plainText part) ++ "/")

/-- The paths that are there of those that a pattern stands for. -/
def foundPaths (pattern : List Char) : Making (List String) := do
  let found ← pathsBelow (Shell.Pattern.pathParts pattern) ""
  return found.mergeSort fun a b => decide (a ≤ b)

/-- The home of somebody for a tilde before a name. -/
def atHome (name : List Char) : Making (List Char) := do
  match name with
  | '~' :: rest =>
    if rest.isEmpty || rest.head? == some '/' then
      match ← bindingOf? "HOME" with
      | some home => return home.toList ++ rest
      | none => return name
    else return name
  | _ => return name

/-- The files that names stand for, of which some may be patterns. -/
def filesOf (names : List (List Char)) : Making (List String) := do
  let mut found : List String := []
  for name in names do
    let name ← atHome name
    let short := (fileName name).toList
    if isPathPattern short then
      let paths ← foundPaths short
      found := found ++ (if paths.isEmpty then [.ofList short] else paths)
    else found := found ++ [.ofList short]
  return found

/-! ### Ages -/

/-- The age of a file at a place. -/
def ageAt (path : String) : Making Age := do
  match ← ask (.status path true) with
  | .ok st => return .dated st.time
  | .error _ => return .missing

/-- The age of a file in words of seconds. -/
def secondsTold (time : Int) : String :=
  let seconds := time / 1000000
  if 99 ≤ seconds then toString seconds
  else
    let tenths := (time / 100000).toNat
    if 100 ≤ tenths then toString ((tenths + 5) / 10)
    else toString (tenths / 10) ++ (if tenths % 10 = 0 then "" else "." ++ toString (tenths % 10))

/-- Tell of a file that is newer than now. -/
def tellSkew (name : String) (age : Age) : Making Unit := do
  match age with
  | .dated time =>
    let now ← ask .clock
    if now < time then
      tellAt none ("Warning: File '" ++ name ++ "' has modification time " ++ secondsTold (time - now) ++
        " s in the future")
      modify fun b => { b with hasSkew := true }
  | _ => pure ()

/-! ### Other directories -/

/-- Cut a list of directories at colons and blanks. -/
def directoriesIn (text : List Char) : List String :=
  (wordsAt (fun c => c == ':' || isSpace c) text []).filterMap fun dir =>
    let dir := if 1 < dir.length && dir.getLast? == some '/' then dir.dropLast else dir
    if dir == ['.'] then none else some (.ofList dir)

/-- Where a file is in other directories, if it is in one. What makefiles mention counts as if it were
there, if the file itself is no target. -/
def placeOf? (name : String) : Making (Option String) := do
  if name.toList.head? == some '/' then return none
  let b ← get
  let isTarget := ((b.find? name).map (·.isTarget)).getD false
  for dir in (b.places.filter (·.1.fits name)).flatMap (·.2) do
    let path := if dir = "/" then "/" ++ name else dir ++ "/" ++ name
    let isMentioned := ((b.find? path).map fun t => !isTarget || t.isTarget).getD false
    if isMentioned then return some path
    match ← ask (.status path true) with
    | .ok _ => return some path
    | .error _ => pure ()
  return none

end Ensemble.Utility.Making
