import Ensemble.Utility.Making.Preparation

/-!
# Ensemble.Utility.Making

**Making targets by a makefile**: `make`. Options and settings of variables come from the environment
first, and then from the arguments; they are handed on to commands in the environment, and makefiles may
add some. If a makefile has been made again, all is read once more.
-/

namespace Ensemble.Utility

namespace Making

/-! ### Options -/

/-- The arguments, with the number of jobs joined to its option. -/
def withJobs : List String → List String
  | "-j" :: n :: args =>
    if n != "" && n.toList.all Char.isDigit then ("-j" ++ n) :: withJobs args
    else "-j" :: withJobs (n :: args)
  | a :: args => a :: withJobs args
  | [] => []

/-- A text with backslashes before its blanks, and with each dollar sign twice. -/
def protectedText (s : String) : String :=
  .ofList (s.toList.flatMap fun c =>
    if isBlank c || c == '\x5c' then ['\x5c', c] else if c == '$' then ['$', '$'] else [c])

/-- The arguments that a text holds. -/
def argumentsIn (flags : String) : List String :=
  let rec go : Option (List Char) → List Char → List String
    | word, [] => word.toList.map fun w => String.ofList w.reverse
    | word, '\x5c' :: c :: cs => go (some (c :: word.getD [])) cs
    | word, c :: cs =>
      if isBlank c then (word.toList.map fun w => String.ofList w.reverse) ++ go none cs
      else go (some (c :: word.getD [])) cs
  match go none flags.toList with
  | [] => []
  | w :: ws =>
    (if w.toList.head? == some '-' || w.toList.contains '=' then w else "-" ++ w) :: ws

/-- The options. -/
def choices : Choices :=
  { letters := "bmBC:deE:f:hiI:j::kl::Lno:O::pqrRsStvwW:"
    words := [("always-make", "B"), ("directory:", "C"), ("debug::", "debug"),
      ("environment-overrides", "e"), ("eval:", "E"), ("file:", "f"), ("makefile:", "f"),
      ("ignore-errors", "i"), ("include-dir:", "I"), ("jobs::", "j"), ("keep-going", "k"),
      ("load-average::", "l"), ("max-load::", "l"), ("check-symlink-times", "L"), ("just-print", "n"),
      ("dry-run", "n"), ("recon", "n"), ("old-file:", "o"), ("assume-old:", "o"), ("output-sync::", "O"),
      ("print-data-base", "p"), ("question", "q"), ("no-builtin-rules", "r"),
      ("no-builtin-variables", "R"), ("silent", "s"), ("quiet", "s"), ("no-silent", "no-silent"),
      ("no-keep-going", "S"), ("stop", "S"), ("touch", "t"), ("trace", "trace"), ("version", "v"),
      ("print-directory", "w"), ("no-print-directory", "no-print-directory"), ("what-if:", "W"),
      ("new-file:", "W"), ("assume-new:", "W"), ("warn-undefined-variables", "undefined"),
      ("jobserver-auth:", "auth")] }

/-- What options say about the manner of making, besides what has been said before. -/
def Manner.with (m : Manner) (chosen : Chosen) : Manner :=
  let latest (yes no : String) (before : Bool) : Bool :=
    match chosen.find? fun c => c.1 == yes || c.1 == no with
    | some (name, _) => name == yes
    | none => before
  { m with
    silent := latest "s" "no-silent" m.silent, keepGoing := latest "k" "S" m.keepGoing
    ignoring := m.ignoring || chosen.has "i", onlyTold := m.onlyTold || chosen.has "n"
    onlyAsked := m.onlyAsked || chosen.has "q", touching := m.touching || chosen.has "t"
    always := m.always || chosen.has "B", traced := m.traced || chosen.has "trace"
    environmentWins := m.environmentWins || chosen.has "e"
    warnsUndefined := m.warnsUndefined || chosen.has "undefined"
    withoutRules := m.withoutRules || chosen.has "r" || chosen.has "R"
    withoutVariables := m.withoutVariables || chosen.has "R"
    tellsDirectory := m.tellsDirectory || chosen.has "w"
    neverTellsDirectory := m.neverTellsDirectory || chosen.has "no-print-directory" }

/-- What is asked for besides the manner. -/
structure Wishes where
  goals : List String := []
  /-- The settings of variables, the last first. -/
  settings : List String := []
  /-- The values of options, by their letters, the last first. -/
  chosen : Chosen := []

def Wishes.all (w : Wishes) (option : String) : List String :=
  (w.chosen.reverse.filter (·.1 == option)).map (·.2)

/-- What commands are told of the options: those that are letters, and, if all are told, those with
values and those that are words. -/
def flagText (m : Manner) (w : Wishes) (isAll : Bool) : String :=
  let letters : List (String × Bool) :=
    [("B", m.always), ("e", m.environmentWins), ("i", m.ignoring), ("k", m.keepGoing),
      ("L", w.chosen.has "L"), ("n", m.onlyTold), ("p", w.chosen.has "p"), ("q", m.onlyAsked),
      ("r", m.withoutRules), ("R", m.withoutVariables), ("s", m.silent), ("t", m.touching),
      ("w", m.tellsDirectory)]
  let simple := String.join ((letters.filter (·.2)).map (·.1))
  let valued (letter : String) : List String :=
    (w.all letter).map fun v => "-" ++ letter ++ protectedText v
  let worded (name : String) (isSet : Bool) : List String := if isSet then ["--" ++ name] else []
  let jobs := if isAll then valued "j" |>.reverse |>.take 1 else []
  let others := (if isAll then valued "I" ++ jobs ++ valued "O" else []) ++
    worded "trace" m.traced ++ worded "no-print-directory" m.neverTellsDirectory ++
    worded "warn-undefined-variables" m.warnsUndefined
  simple ++ String.join (others.map (" " ++ ·))

/-- Set the variables that tell commands of the options. -/
def putFlags (w : Wishes) (isAll : Bool) : Making Unit := do
  let b ← get
  let flags := flagText b.manner w isAll
  let lead := if flags = "" || flags.startsWith " " then "" else "-"
  let plain : Variable := { value := lead ++ flags.trimAsciiStart.toString, origin := b.environmentOrigin }
  modify fun b => b.withVariable "MFLAGS" plain
  let evals := if (w.all "E").isEmpty then "" else " $(-*-eval-flags-*-)"
  let hasOverrides := (((b.vars.lookup "MAKEOVERRIDES").map (·.value)).getD "") != ""
  let reference := if b.isPosix then "$\x7b-*-command-variables-*-\x7d" else "$(MAKEOVERRIDES)"
  let overrides := if isAll && hasOverrides then " -- " ++ reference else ""
  let value := flags ++ evals ++ overrides
  let origin := if b.manner.environmentWins then Origin.environmentFirst else .file
  let old := b.vars.lookup "MAKEFLAGS"
  match old with
  | some v =>
    if v.origin.rank ≤ origin.rank then
      modify fun b => b.withVariable "MAKEFLAGS"
        { v with value, origin, recursive := true, passing := if isAll then v.passing else .always }
  | none =>
    let v : Variable := { value, origin, passing := .always }
    modify fun b => b.withVariable "MAKEFLAGS" v

/-! ### Starting -/

/-- The variables of the environment. -/
def putEnvironment (outside : List (String × String)) : Making Unit := do
  let origin := (← get).environmentOrigin
  for (name, value) in outside do
    if name != "SHELL" then
      let passing := if name = "MAKE_RESTARTS" then Passing.never else .always
      let v : Variable := { value, origin, passing }
      modify fun b => b.withVariable name v

/-- Set the variables that arguments set, and keep them for commands. -/
def putSettings (settings : List String) : Making Unit := do
  let mut told : List String := []
  let mut seen : List String := []
  for s in settings do
    match ← setAs readers.expand none s.toList .commandLine none with
    | none => pure ()
    | some name => if !seen.contains name then seen := name :: seen
  for name in seen do
    match (← get).vars.lookup name with
    | none => pure ()
    | some v =>
      told := told ++ [protectedText name ++ (if v.recursive then "=" else ":=") ++ protectedText v.value]
  if !told.isEmpty then
    let all := automaticVariable (unwords told)
    let b ← get
    let outer : Variable :=
      { value := "$\x7b-*-command-variables-*-\x7d", origin := b.environmentOrigin }
    modify fun b => (b.withVariable "-*-command-variables-*-" all).withVariable "MAKEOVERRIDES" outer

/-- The files that are read if none is given. -/
def usualFiles : List String := ["GNUmakefile", "makefile", "Makefile"]

/-- The name of the file that standard input is. -/
def standardInput : String := "/dev/stdin"

/-- Read all makefiles. -/
def readAll (w : Wishes) : Making Unit := do
  let evals := w.all "E"
  for text in evals do
    modify fun b => { b with spot := none }
    readers.evaluate text
  if !evals.isEmpty then
    let all := automaticVariable (unwords (evals.map fun e => "--eval=" ++ protectedText e))
    modify fun b => b.withVariable "-*-eval-flags-*-" all
  for name in words (← expand "$(MAKEFILES)") do
    readMakefile readers true true name
    modify fun b => b.withVariable ".DEFAULT_GOAL" { recursive := false }
  let given := w.all "f"
  for name in given do
    modify fun b => { b with spot := none }
    if name = "-" then
      readMakefile readers false false standardInput
      let age ← ageOf ⟨standardInput, 0⟩ false
      modify fun b => b.adjusted ⟨standardInput, 0⟩ fun t =>
        { t with isUpdated := true, outcome := .done, age := some age, ageBefore := some age }
    else readMakefile readers false false name
  if given.isEmpty then
    let mut isFound := false
    for name in usualFiles do
      if !isFound then
        if (← ageAt name) != .missing then
          isFound := true
          readMakefile readers false false name
    if !isFound then
      for name in usualFiles do
        modify fun b => { b.withTarget name with
          makefiles := b.makefiles ++ [{ name, isMissing := true, mayMiss := true }] }
  modify fun b => { b with spot := none }

/-- Take the options into account that makefiles have set. -/
def rereadFlags : Making Unit := do
  let (chosen, _) ← StateT.lift (choices.given (argumentsIn (← expand "$(MAKEFLAGS)")))
  modify fun b => { b with manner := { b.manner with
    silent := b.manner.silent || chosen.has "s", keepGoing := b.manner.keepGoing || chosen.has "k"
    ignoring := b.manner.ignoring || chosen.has "i", onlyTold := b.manner.onlyTold || chosen.has "n"
    onlyAsked := b.manner.onlyAsked || chosen.has "q", touching := b.manner.touching || chosen.has "t"
    withoutRules := b.manner.withoutRules || chosen.has "r" || chosen.has "R"
    withoutVariables := b.manner.withoutVariables || chosen.has "R"
    traced := b.manner.traced || chosen.has "trace"
    warnsUndefined := b.manner.warnsUndefined || chosen.has "undefined"
    neverTellsDirectory := b.manner.neverTellsDirectory || chosen.has "no-print-directory" } }

/-- The targets that are made if none is asked for. -/
def usualGoals : Making (List String) := do
  let b ← get
  let value ←
    match b.vars.lookup ".DEFAULT_GOAL" with
    | some v => if v.recursive then expand v.value else pure v.value
    | none => pure ""
  if (b.find? value).isSome && value != "" then return [value]
  match ← filesOf (namesIn value.toList) with
  | [] =>
    let listed := ((b.vars.lookup "MAKEFILE_LIST").map (·.value)).getD ""
    giveUpBecause (if listed = "" then "No targets specified and no makefile found" else "No targets")
  | [goal] => return [goal]
  | _ => giveUpBecause ".DEFAULT_GOAL contains more than one target"

/-- Mark the targets that are taken for older, or newer, than they are. -/
def markAges (w : Wishes) (isFirst : Bool) : Making Unit := do
  for name in w.all "o" do
    let name := fileName name.toList
    modify fun b => (b.withTarget name).adjusted ⟨name, 0⟩ fun t =>
      { t with age := some .old, ageBefore := some .old, isUpdated := true, outcome := .done }
  if isFirst then
    for name in w.all "W" do
      let name := fileName name.toList
      modify fun b => (b.withTarget name).adjusted ⟨name, 0⟩ fun t =>
        { t with age := some .new, ageBefore := some .new }

/-- Read makefiles and make what is asked for, from the beginning if a makefile has been made. -/
def runFrom (start : Book) (w : Wishes) : Nat → Nat → Making Nat
  | 0, _ => return 2
  | fuel + 1, restarts => do
    set { start with manner := { start.manner with always := start.manner.always && restarts = 0 } }
    if restarts != 0 then
      let v : Variable :=
        { value := toString restarts, origin := start.environmentOrigin, passing := .never }
      modify fun b => b.withVariable "MAKE_RESTARTS" v
    for goal in w.goals do
      let name := fileName goal.toList
      modify fun b => (b.withTarget name).adjusted ⟨name, 0⟩ fun t => { t with isGoal := true }
    readAll w
    rereadFlags
    closeReading
    putFlags w true
    markAges w (restarts = 0)
    let (isRemade, status) ← remakeMakefiles
    if isRemade then
      removeIntermediates
      runFrom start w fuel (restarts + 1)
    else
      let goals ← if w.goals.isEmpty then usualGoals else pure (w.goals.map fun g => fileName g.toList)
      for goal in goals do modify fun b => b.withTarget goal
      let outcome ← updateGoals goals
      if (← get).hasSkew then
        tellAt none "warning:  Clock skew detected.  Your build may be incomplete."
      leave (match outcome with
        | .done | .untried => status
        | .wanted => 1
        | .failed => 2)

end Making

open Making in
def make (args : List String) : Tool Nat := do
  let d ← get
  let outside := d.bindings.map cutBinding
  let level := ((outside.lookup "MAKELEVEL").bind String.toNat?).getD 0
  let base := baseName d.name
  let name := if level = 0 then base else base ++ "[" ++ toString level ++ "]"
  set { d with name, failure := 2 }
  let (before, settings) ← choices.given (argumentsIn ((outside.lookup "MAKEFLAGS").getD ""))
  let (chosen, operands) ← choices.given (withJobs args)
  let chosen := chosen ++ before
  if chosen.has "v" then
    sayLine "GNU Make 4.3"
    quit 0
  let isSetting (s : String) : Bool := (definition? s.toList).isSome
  let w : Wishes := {
    chosen, goals := operands.filter (!isSetting ·)
    settings := (settings ++ operands).filter isSetting }
  let manner := ({} : Manner).with chosen
  let directories := w.all "C"
  let isTelling := manner.tellsDirectory || !manner.silent && (!directories.isEmpty || level != 0)
  let manner := { manner with tellsDirectory := isTelling && !manner.neverTellsDirectory }
  let whole : Making Nat := do
    for dir in directories do
      match ← ask (.changeDirectory dir) with
      | .ok _ => pure ()
      | .error e => giveUpBecause (dir ++ ": " ++ e.message)
    let here ← ask .directory
    modify fun b => { b with includeDirectories := w.all "I" }
    putEnvironment outside
    putUsual
    let text (value : String) (origin : Making.Origin) : Variable := { value, recursive := false, origin }
    modify fun b => b.withVariable "MAKE_COMMAND" (text d.name .usual)
    modify fun b => b.withVariable "MAKE" { value := "$(MAKE_COMMAND)", origin := .usual }
    modify fun b => b.withVariable "CURDIR" (text here .file)
    modify fun b => b.withVariable ".DEFAULT_GOAL" (text "" .file)
    if !w.goals.isEmpty then
      modify fun b => b.withVariable "MAKECMDGOALS" (text (unwords w.goals) .usual)
    let ownLevel : Variable := { value := toString level, recursive := false, origin := .environment }
    modify fun b => b.withVariable "MAKELEVEL" ownLevel
    let makefiles : Variable := ((← get).vars.lookup "MAKEFILES").getD (text "" .usual)
    modify fun b => b.withVariable "MAKEFILES" { makefiles with passing := .ifSet }
    putSettings w.settings
    putFlags w false
    if manner.tellsDirectory then
      sayLine (name ++ ": Entering directory '" ++ here ++ "'")
      modify fun b => { b with entered := some here }
    runFrom (← get) w 50 0
  return (← whole.run { name, manner }).1

end Ensemble.Utility
