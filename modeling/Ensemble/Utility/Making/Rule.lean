import Ensemble.Utility.Making.Assignment

/-!
# Ensemble.Utility.Making.Rule

**Putting down rules.** A rule with a recipe puts what it names first before what other rules name for
its target; rules with two colons stand for themselves. If all targets are patterns, the rule is one for
all that they fit; if a pattern stands between targets and prerequisites, each target has a stem by it.
-/

namespace Ensemble.Utility.Making

/-- A rule that is being read. -/
structure OpenRule where
  targets : List String
  /-- Are the targets made together? -/
  together : Bool := false
  pattern : Option Pattern := none
  prerequisites : List Char := []
  isDouble : Bool := false
  /-- Where it begins. -/
  spot : Option Spot := none
  mark : Char := '\t'
  /-- The lines of its recipe, the last first, and where the first is. -/
  lines : List String := []
  recipeSpot : Option Spot := none

/-- The prerequisites in a text; those behind a bar are only made before. -/
def prerequisitesIn (text : List Char) : Making (List Prerequisite) := do
  let (normal, rest) := namesUpTo (· == '|') (text.length + 1) text []
  let normal ← filesOf normal
  let before ← filesOf (namesIn (rest.drop 1))
  return normal.map (fun name => { name }) ++ before.map fun name => { name, orderOnly := true }

/-- Enter what is made from as targets; the stem of a rule stands for the mark of a pattern. -/
def entered (stem : Option String) (ps : List Prerequisite) : Making (List Prerequisite) := do
  let ps := match stem with
    | none => ps
    | some stem => ps.filterMap fun p =>
      let name := (Pattern.ofString p.name).filled stem
      if name = "" then none else some { p with name := fileName name.toList }
  modify fun b => ps.foldl (fun b p => if p.isLate then b else b.withTarget p.name) b
  return ps

/-- What is set for a makefile that follows the standard to the letter. -/
def beStrict : Making Unit := do
  let usual (name value : String) : Making Unit := do
    let v : Variable := { value, recursive := false, origin := .usual }
    modify fun b =>
      if (((b.vars.lookup name).map (·.origin)).getD .usual) = .usual then b.withVariable name v else b
  modify fun b => { b with isPosix := true }
  usual ".SHELLFLAGS" "-ec"
  usual "ARFLAGS" "-rv"
  usual "CC" "c99"
  usual "CFLAGS" "-O1"
  usual "FC" "fort77"
  usual "FFLAGS" "-O1"
  usual "SCCSGETFLAGS" "-s"

/-- Put a rule of patterns behind the others. One for the same targets and prerequisites is replaced, or
else it stays and the new one is left out. -/
def putPatternRule (replaces : Bool) (r : PatternRule) : Making Unit :=
  modify fun b =>
    let isSame (o : PatternRule) : Bool :=
      r.targets.any (fun t => o.targets.all (· == t)) &&
        o.prerequisites.map (·.name) == r.prerequisites.map (·.name)
    if b.patterns.any isSame then
      if replaces then { b with patterns := b.patterns.eraseP isSame ++ [r] } else b
    else { b with patterns := b.patterns ++ [r] }

/-- Put down a rule for one target. -/
def putRule (o : OpenRule) (recipe : Option Recipe) (name : String) (ps : List Prerequisite) :
    Making Unit := do
  if name = ".POSIX" then
    if !(← get).isPosix then beStrict
  else if name = ".SECONDEXPANSION" then modify fun b => { b with isExpandingTwice := true }
  else if name = ".ONESHELL" then modify fun b => { b with isOneShell := true }
  let (ps, stem) ←
    match o.pattern with
    | none => pure (ps, none)
    | some p =>
      match p.stem? name with
      | none => do
        tellAt o.spot ("target '" ++ name ++ "' doesn't match the target pattern")
        pure ([], some name)
      | some stem => do
        if ps.any (·.isLate) then pure (ps.map fun p => { p with stem := some stem }, some stem)
        else pure (← entered (some stem) ps, some stem)
  let old := (← get).find? name
  let both := "target file '" ++ name ++ "' has both : and :: entries"
  let withStem (t : Target) : Target := { t with isTarget := true, stem := stem.orElse fun _ => t.stem }
  if o.isDouble then
    match old with
    | some t => do
      if t.isTarget && !t.isDouble then refuseAt o.spot both
      if t.isDouble then
        let t : Target := { name, place := name, isDouble := true, recipe, prerequisites := ps }
        modify fun b => { b with targets := b.targets.modify name fun all => all.push (withStem t) }
      else
        modify fun b => b.adjusted ⟨name, 0⟩ fun t =>
          withStem { t with isDouble := true, recipe, prerequisites := t.prerequisites ++ ps }
    | none =>
      let t : Target := { name, place := name, isDouble := true, recipe, prerequisites := ps }
      modify fun b => { b with targets := b.targets.insert name #[withStem t] }
  else
    match old with
    | some t => do
      if t.isDouble then refuseAt o.spot both
      match recipe, t.recipe with
      | some new, some before => do
        if new == before then
          tellAt o.spot ("target '" ++ name ++ "' given more than once in the same rule")
        else if t.isTarget then
          tellAt new.spot ("warning: overriding recipe for target '" ++ name ++ "'")
          tellAt before.spot ("warning: ignoring old recipe for target '" ++ name ++ "'")
      | _, _ => pure ()
    | none => modify fun b => b.withTarget name
    modify fun b => b.adjusted ⟨name, 0⟩ fun t =>
      let isCleared := ps.isEmpty && (name = ".SUFFIXES" || name = ".DEFAULT" && recipe.isNone)
      let before := if isCleared && name = ".SUFFIXES" then [] else t.prerequisites
      withStem { t with
        recipe := if isCleared && name = ".DEFAULT" then none else recipe.orElse fun _ => t.recipe
        prerequisites := if recipe.isSome then ps ++ before else before ++ ps }

/-- Put down a rule that has been read. -/
def closeRule (open? : Option OpenRule) : Making Unit := do
  match open? with
  | none => pure ()
  | some o => do
    let b ← get
    if b.isRead then refuseAt o.spot "prerequisites cannot be defined in recipes"
    let recipe : Option Recipe := o.recipeSpot.map fun spot =>
      { lines := o.lines.reverse, spot := some spot, mark := o.mark, rule := b.rulesRead }
    modify fun b => { b with rulesRead := b.rulesRead + 1 }
    if o.together && recipe.isNone then refuseAt o.spot "grouped targets must provide a recipe"
    let text := unprotected ':' (o.prerequisites.length + 1) o.prerequisites
    let isLate := b.isExpandingTwice && text.contains '$'
    let targets := o.targets.map Pattern.ofString
    let isImplicit := (targets.head?.map (·.isProper)).getD false
    let ps ←
      if text.isEmpty then pure []
      else if isLate then
        pure [{ name := .ofList text, isLate := true, isPattern := o.pattern.isSome }]
      else do
        let ps ← prerequisitesIn text
        if o.pattern.isSome || isImplicit then pure ps else entered none ps
    if isImplicit then
      if o.pattern.isSome then refuseAt o.spot "mixed implicit and static pattern rules"
      if targets.any (!·.isProper) then refuseAt o.spot "mixed implicit and normal rules"
      putPatternRule true { targets, prerequisites := ps, recipe, isTerminal := o.isDouble }
    else
      for (t, n) in targets.zipIdx do
        if n != 0 && t.isProper then
          tellAt o.spot "*** mixed implicit and normal rules: deprecated syntax"
        putRule o recipe t.text ps
      if o.together then
        let names := targets.map (·.text)
        for name in names do
          if !(((← get).find? name).map (·.together.isEmpty)).getD true then
            tellAt (recipe.bind (·.spot)) ("warning: overriding group membership for target '" ++ name ++ "'")
          let key := (((← get).keysOf name).getLast?).getD ⟨name, 0⟩
          modify fun b => b.adjusted key fun t => { t with together := names.reverse }
where
  /-- A text without the backslashes that take the meaning from a character. -/
  unprotected (c : Char) : Nat → List Char → List Char
    | 0, cs => cs
    | fuel + 1, cs =>
      match cutAt (· == c) cs with
      | (text, none) => text
      | (text, some (c, rest)) => text ++ c :: unprotected c fuel rest

/-- Note the target that is made if none is given. -/
def noteGoal (targets : List String) : Making Unit := do
  let b ← get
  if (((b.vars.lookup ".DEFAULT_GOAL").map (·.value)).getD "") = "" then
    let suffixes := ((b.find? ".SUFFIXES").map fun t => t.prerequisites.map (·.name)).getD []
    let isSuffix (name : String) : Bool :=
      suffixes.any fun s => !(s.startsWith ".") && s == name ||
        name.startsWith s && suffixes.contains (.ofList (name.toList.drop s.length))
    let plain := targets.takeWhile fun t => !t.toList.contains '%'
    let isFit (t : String) : Bool :=
      (t.toList.head? != some '.' || t.toList.contains '/') && !isSuffix t
    match plain.find? isFit with
    | some t =>
      let goal : Variable := { value := t, recursive := false }
      modify fun b => b.withVariable ".DEFAULT_GOAL" goal
    | none => pure ()

end Ensemble.Utility.Making
