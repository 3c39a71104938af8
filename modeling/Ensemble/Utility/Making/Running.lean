import Ensemble.Shell.Signal
import Ensemble.Utility.Making.Search

/-!
# Ensemble.Utility.Making.Running

**Running recipes.** All lines of a recipe are expanded before the first is run. Marks before a line say
whether it is told, whether its failure counts, and whether it is run even if nothing else is.
-/

namespace Ensemble.Utility.Making

/-! ### Environments -/

/-- Can a variable have this name in an environment? -/
def isPortable (name : String) : Bool :=
  match name.toList with
  | c :: cs => (c.isAlpha || c == '_') && cs.all fun d => d.isAlphanum || d == '_'
  | [] => false

/-- Do started programs get a variable? -/
def isPassed (b : Book) (name : String) (v : Variable) : Bool :=
  let passing := if v.isLocal && v.passing == .unsaid then
      ((b.vars.lookup name).map (·.passing)).getD .unsaid
    else v.passing
  match passing with
  | .always => true
  | .never => false
  | .ifSet => v.origin != .usual
  | .unsaid =>
    v.origin != .usual && v.origin != .automatic && isPortable name &&
      (b.exportsAll || [Origin.commandLine, .environment, .environmentFirst].contains v.origin)

/-- The environment of the commands of a target. -/
def environmentFor (k : Key) : Making (List String) := do
  let b ← get
  let outside := (← getThe Desk).bindings
  let layers := b.layersOf 1000 (some k) ++ [(b.vars, false)]
  let mut passed : Scope := []
  for (scope, _) in layers do
    for (name, v) in scope do
      if isPassed b name v && name != "MAKELEVEL" && !passed.any (·.1 == name) then
        passed := (name, v) :: passed
  let isNeverShell := !passed.any (·.1 == "SHELL")
  let mut bindings := outside.filter fun o =>
    let name := (cutBinding o).1
    passed.any (·.1 == name) || name = "MAKELEVEL" || name = "SHELL" && isNeverShell
  for (name, v) in passed.reverse do
    let isOutside := v.origin == .environment || v.origin == .environmentFirst
    let value ←
      if v.recursive && !isOutside then
        within (fun b => { b with scopes := [], target := some k })
          (if v.appends then valueOfName readers.expand name else valueOf readers.expand name v)
      else pure v.value
    bindings := withBinding bindings (name ++ "=" ++ value)
  let level := ((((outside.map cutBinding).lookup "MAKELEVEL").bind String.toNat?).getD 0) + 1
  let known := bindings.filter fun o => (cutBinding o).1 != "MAKELEVEL"
  let numberOf (o : String) : Nat := Mixing.numberOfVariable (cutBinding o).1
  return Mixing.arranged numberOf known ++ ["MAKELEVEL=" ++ toString level]

/-! ### Lines -/

/-- What stands before a command: is it not told, is its failure passed over, and is it run in any
case? -/
structure Marks where
  silent : Bool := false
  ignoring : Bool := false
  anyway : Bool := false

/-- The marks before a command, and the command. -/
def marksOf : Marks → List Char → Marks × List Char
  | m, '@' :: cs => marksOf { m with silent := true } cs
  | m, '-' :: cs => marksOf { m with ignoring := true } cs
  | m, '+' :: cs => marksOf { m with anyway := true } cs
  | m, c :: cs => if isBlank c then marksOf m cs else (m, c :: cs)
  | m, [] => (m, [])

/-- The marks of a line of a recipe. One that makes other targets is run in any case. -/
def lineMarks (line : String) : Marks :=
  let (m, rest) := marksOf {} line.toList
  let rest := String.ofList rest
  { m with anyway := m.anyway || 1 < (rest.splitOn "$(MAKE)").length ||
      1 < (rest.splitOn "$\x7bMAKE\x7d").length }

/-- Cut a text at line ends that no backslash stands before. -/
def commandLines : List Char → List Char → List (List Char)
  | [], line => [line.reverse]
  | '\x5c' :: c :: cs, line => commandLines cs (c :: '\x5c' :: line)
  | '\n' :: cs, line => line.reverse :: commandLines cs []
  | c :: cs, line => commandLines cs (c :: line)

/-- A text in which lines that go on are joined inside of references. -/
def joinedInside : Nat → List Char → List Char
  | 0, cs => cs
  | _, [] => []
  | fuel + 1, '$' :: d :: ds =>
    if d == '(' || d == '\x7b' then
      match upToClosing d 0 ds [] with
      | some (inside, rest) =>
        '$' :: d :: (go (inside.length + 1) [] inside ++ closingOf d :: joinedInside fuel rest)
      | none => '$' :: d :: go (ds.length + 1) [] ds
    else '$' :: joinedInside fuel (d :: ds)
  | fuel + 1, c :: cs => c :: joinedInside fuel cs
where
  /-- Join lines, given what stands before, reversed. -/
  go : Nat → List Char → List Char → List Char
    | 0, before, cs => before.reverse ++ cs
    | _, before, [] => before.reverse
    | fuel + 1, before, '\x5c' :: '\n' :: cs =>
      if (before.takeWhile (· == '\x5c')).length % 2 = 1 then go fuel ('\n' :: '\x5c' :: before) cs
      else go fuel (' ' :: before.dropWhile isBlank) (cs.dropWhile isSpace)
    | fuel + 1, before, c :: cs => go fuel (c :: before) cs

/-- A command without the mark of recipes at the beginning of lines that it goes on in. -/
def withoutMark (mark : Char) : List Char → List Char
  | '\n' :: c :: cs => if c == mark then '\n' :: withoutMark mark cs else '\n' :: withoutMark mark (c :: cs)
  | c :: cs => c :: withoutMark mark cs
  | [] => []

/-- How a process has ended, in words. -/
def endingWords : Ending → String
  | .exited n => "Error " ++ toString n
  | .killed n => (Shell.deathNotice n).getD (if n = 2 then "Interrupt" else "Broken pipe")

/-! ### Commands -/

/-- How a command comes out. -/
inductive Result
  | done
  /-- It was not needed to run anything. -/
  | skipped
  | wanted
  | failed
deriving DecidableEq, Repr

/-- Where a recipe stands, in words. -/
def recipePlace (spot : Option Spot) : String :=
  match spot with
  | some s => s.file ++ ":" ++ toString s.line
  | none => "<builtin>"

/-- Remove what a recipe has left half made. -/
def removeChanged (k : Key) : Making Unit := do
  let b ← get
  match b.target? k with
  | none => pure ()
  | some t => do
    let owner := t.place
    for (name, isOwn) in (k.name, true) :: t.together.map (·, false) do
      let key : Key := if isOwn then k else ⟨name, 0⟩
      match b.target? key with
      | none => pure ()
      | some t =>
        if !t.isPrecious && !t.isPhony && (isOwn || name != k.name) then
          match ← ask (.status t.place true) with
          | .ok st =>
            if st.kind == .file && some (Age.dated st.time) != t.age then
              let lead := if isOwn then "" else "[" ++ owner ++ "] "
              tellAt none ("*** " ++ lead ++ "Deleting file '" ++ t.place ++ "'")
              let _ ← ask (.unlink t.place)
          | .error _ => pure ()

/-- Run a command of a recipe. -/
def runCommandOf (k : Key) (t : Target) (recipe : Recipe) (spot : Option Spot) (marks : Marks)
    (command : List Char) : Making Result := do
  let b ← get
  let (marks, command) := marksOf marks command
  let command := withoutMark recipe.mark command
  let shell ← expandFor k none "$(SHELL)"
  let flags ← expandFor k none "$(.SHELLFLAGS)"
  let flags := if b.isPosix && flags = "-ec" && marks.ignoring then "-c" else flags
  let args := commandWords shell flags b.isOneShell command
  if args.isEmpty then return .skipped
  if b.manner.onlyAsked && !marks.anyway then return .wanted
  if b.manner.touching && !marks.anyway then return .skipped
  if b.manner.onlyTold || b.manner.traced || !marks.silent && !b.manner.silent then
    sayLine (.ofList command)
  modify fun b => { b with started := b.started + 1 }
  if b.manner.onlyTold && !marks.anyway then return .skipped
  if isUsualShell (args.headD "") && ["-c", "-ec"].contains (args[1]?.getD "") && args[2]? == some ":" &&
      args.length = 3 then
    return .skipped
  let child ← startCommand args (← environmentFor k)
  let ending ←
    match ← ask (.wait (some child) true false) with
    | .ended _ ending => pure ending
    | _ => pure (.exited 127)
  if ending = .exited 0 then return .done
  if b.manner.onlyAsked && ending = .exited 1 then return .wanted
  let told := "[" ++ recipePlace spot ++ ": " ++ t.place ++ "] " ++ endingWords ending
  if marks.ignoring || b.manner.ignoring then
    if !b.manner.silent then tellFailure (told ++ " (ignored)")
    return .done
  if !t.mayMiss then tellFailure ("*** " ++ told)
  let isKilled := match ending with | .killed _ => true | .exited _ => false
  if isKilled || b.hasMark ".DELETE_ON_ERROR" then removeChanged k
  return .failed

/-- The lines of a recipe, as they are run. -/
def linesOf (b : Book) (r : Recipe) : List String :=
  if b.isOneShell then ["\n".intercalate r.lines] else r.lines

/-- Run a recipe. -/
def runRecipe (k : Key) (t : Target) (recipe : Recipe) : Making Result := do
  prepareScope k
  let b ← get
  let mut commands : List (Option Spot × Marks × List Char) := []
  for (line, n) in (linesOf b recipe).zipIdx do
    let spot := recipe.spot.map fun s => { s with line := s.line + n }
    let text ← expandFor k spot (.ofList (joinedInside (line.length + 1) line.toList))
    let m := lineMarks line
    let m := { m with silent := m.silent || t.isSilent, ignoring := m.ignoring || t.isIgnoring }
    let parts := if b.isOneShell then [text.toList] else commandLines text.toList []
    commands := commands ++ parts.map fun c => (spot, m, c)
  if b.manner.traced then
    let newer ← expandFor k none "$?"
    sayLine (recipePlace recipe.spot ++ ": " ++
      (if newer = "" then "target '" ++ t.place ++ "' does not exist"
      else "update target '" ++ t.place ++ "' due to: " ++ newer))
  let mut isFirst := true
  for (spot, marks, command) in commands do
    match ← runCommandOf k t recipe spot marks command with
    | .failed => return .failed
    | .wanted => return .wanted
    | .done => isFirst := false
    | .skipped => pure ()
  return if isFirst then .skipped else .done

end Ensemble.Utility.Making
