import Ensemble.Utility.Options
import Ensemble.Utility.Quotation

/-!
# Ensemble.Utility.Names

Utilities that take **names** apart or follow them: `basename`, `dirname`, `readlink`, `realpath` and
`pwd`.
-/

namespace Ensemble.Utility

/-- A name without the slashes at its end. -/
def withoutSlashes (name : String) : String :=
  .ofList (name.toList.reverse.dropWhile (· == '/')).reverse

/-- The last name of a path; of slashes alone it is one slash. -/
def baseName (path : String) : String :=
  let bare := withoutSlashes path
  if bare = "" then (if path = "" then "" else "/")
  else .ofList (bare.toList.reverse.takeWhile (· != '/')).reverse

/-- The path of the directory that a path leads through at last. -/
def directoryName (path : String) : String :=
  let bare := (withoutSlashes path).toList
  if bare.isEmpty then (if path = "" then "." else "/")
  else
    let above := bare.reverse.dropWhile (· != '/')
    if above.isEmpty then "."
    else
      let dir := (above.dropWhile (· == '/')).reverse
      if dir.isEmpty then "/" else .ofList dir

/-- A path below another. -/
def below (dir name : String) : String :=
  if dir.toList.getLast? == some '/' then dir ++ name else dir ++ "/" ++ name

/-- How deep directories are gone into. -/
def depthLimit : Nat := 5000

/-- A name without a given end, if something is left. -/
def withoutEnd (name ending : String) : String :=
  let cs := name.toList.reverse
  let es := ending.toList.reverse
  if name != ending && es.isPrefixOf cs then .ofList (cs.drop es.length).reverse else name

/-- What ends each name. -/
def ending (chosen : Chosen) : String :=
  if chosen.has "z" then "\x00" else "\n"

def basename (args : List String) : Tool Nat := do
  let (chosen, operands) ← ({
    letters := "as:z", leading := true
    words := [("multiple", "a"), ("suffix:", "s"), ("zero", "z")] } : Choices).given args
  let many := chosen.has "a" || chosen.has "s"
  match operands with
  | [] => misused "missing operand"
  | name :: more => do
    match many, more with
    | false, _ :: extra :: _ => misused ("extra operand " ++ quoted extra)
    | _, _ => pure ()
    let cut := if many then chosen.value? "s" else more.head?
    for n in if many then operands else [name] do
      let base := baseName n
      let base := if base.toList.head? == some '/' then base else withoutEnd base (cut.getD "")
      say (base ++ ending chosen)
    return 0

def dirname (args : List String) : Tool Nat := do
  let (chosen, operands) ←
    ({ letters := "z", words := [("zero", "z")] } : Choices).given args
  if operands.isEmpty then misused "missing operand"
  for n in operands do
    say (directoryName n ++ ending chosen)
  return 0

/-! ### Links -/

/-- How many links are followed. -/
def linkLimit : Nat := 40

/-- The path that leads through no link to a place; the place itself need not exist. -/
def canonical : Nat → String → Tool (Except MachineFault String)
  | 0, _ => return .error .tooManyLinks
  | fuel + 1, path => do
    match ← ask (.realPath path) with
    | .ok real => return .ok real
    | .error .notFound =>
      if path = "" then return .error .notFound
      match ← ask (.readLink (withoutSlashes path)) with
      | .ok target =>
        canonical fuel (if target.toList.head? == some '/' then target
          else below (directoryName path) target)
      | .error _ =>
        match ← ask (.realPath (directoryName path)) with
        | .ok dir => return .ok (below dir (baseName path))
        | .error e => return .error e
    | .error e => return .error e

/-- The names of a path, in order. -/
def namesIn (path : String) : List String :=
  let (first, more) := Text.cutBetween '/' path.toList
  ((first :: more).filter (!·.isEmpty)).map String.ofList

/-- Go on from a place by names, of which nothing need exist, through all links. -/
def imaginedFrom : Nat → String → List String → Tool String
  | 0, place, _ => return place
  | _, place, [] => return place
  | fuel + 1, place, name :: names => do
    if name = "." then imaginedFrom fuel place names
    else if name = ".." then imaginedFrom fuel (directoryName place) names
    else
      let next := below place name
      match ← ask (.realPath next) with
      | .ok real => imaginedFrom fuel real names
      | .error _ =>
        match ← ask (.readLink next) with
        | .ok target =>
          let start := if target.toList.head? == some '/' then "/" else place
          imaginedFrom fuel start (namesIn target ++ names)
        | .error _ => imaginedFrom fuel next names

/-- A path without any links, of which nothing need exist. -/
def imagined (path : String) : Tool String := do
  let start ← if path.toList.head? == some '/' then pure "/" else ask .directory
  imaginedFrom (path.length + 4096) start (namesIn path)

def readlink (args : List String) : Tool Nat := do
  let (chosen, operands) ← ({
    letters := "efmnqsvz"
    words := [("canonicalize", "f"), ("canonicalize-existing", "e"), ("canonicalize-missing", "m"),
      ("no-newline", "n"), ("quiet", "q"), ("silent", "s"), ("verbose", "v"), ("zero", "z")] } :
    Choices).given args
  if operands.isEmpty then misused "missing operand"
  let ends := if chosen.has "n" && operands.length == 1 then "" else ending chosen
  forEach operands fun path => do
    let found ←
      match chosen.last? ["e", "f", "m"] with
      | some "e" => ask (.realPath path)
      | some "f" => canonical linkLimit path
      | some _ => pure (.ok (← imagined path))
      | none => ask (.readLink path)
    match found with
    | .ok target => do
      say (target ++ ends)
      return 0
    | .error e => do
      if chosen.last? ["v", "q", "s"] == some "v" then complainOf (nameOf path) e
      return 1

def realpath (args : List String) : Tool Nat := do
  let (chosen, operands) ← ({
    letters := "eEmLPqsz"
    words := [("canonicalize", "E"), ("canonicalize-existing", "e"), ("canonicalize-missing", "m"),
      ("strip", "s"), ("no-symlinks", "s"), ("logical", "L"), ("physical", "P"), ("quiet", "q"),
      ("zero", "z")] } : Choices).given args
  if operands.isEmpty then misused "missing operand"
  forEach operands fun path => do
    let found ←
      if path = "" then pure (.error .notFound)
      else
        match chosen.last? ["e", "E", "m"] with
        | some "e" => ask (.realPath path)
        | some "m" => pure (.ok (← imagined path))
        | _ => canonical linkLimit path
    match found with
    | .ok target => do
      say (target ++ ending chosen)
      return 0
    | .error e => do
      if !chosen.has "q" then complainOf (nameOf path) e
      return 1

def pwd (args : List String) : Tool Nat := do
  let (chosen, operands) ← ({
    letters := "LP", words := [("logical", "L"), ("physical", "P")] } : Choices).given args
  if !operands.isEmpty then complain "ignoring non-option arguments"
  let real ← ask .directory
  let told ← bindingOf? "PWD"
  match chosen.last? ["L", "P"], told with
  | some "L", some path => do
    let fits := path.toList.head? == some '/' &&
      !(Text.cutBetween '/' path.toList).2.any fun n => n == ['.'] || n == ['.', '.']
    let found ← ask (.realPath path)
    sayLine (if fits && found.toOption == some real then path else real)
  | _, _ => sayLine real
  return 0

end Ensemble.Utility
