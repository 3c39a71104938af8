import Ensemble.Utility.Making.Reader

/-!
# Ensemble.Utility.Making.Search

**Looking for rules of patterns.** Of the rules that fit a target those with the shortest stem come
first. A rule is used if all that it makes the target from is there or mentioned; if there is none, one
is used of which the missing files can be made by other rules. A rule for any name is not used where a
closer one fits.
-/

namespace Ensemble.Utility.Making

/-! ### Variables of a target -/

/-- The known suffixes. -/
def suffixesOf (b : Book) : List String :=
  ((b.find? ".SUFFIXES").map fun t => t.prerequisites.map (·.name)).getD []

/-- What stands for the mark of a pattern in a target of no pattern: it has no known suffix. -/
def stemWithoutSuffix (b : Book) (name : String) : String :=
  match (suffixesOf b).find? fun s => s.length < name.length && name.endsWith s with
  | some s => .ofList (name.toList.take (name.length - s.length))
  | none => ""

/-- Where a prerequisite is found. -/
def placeOf (b : Book) (name : String) : String :=
  ((b.find? name).map (·.place)).getD name

/-- Prerequisites, each once; one that is a reason to make the target is one at all its places. -/
def withoutRepeats (ps : List Prerequisite) : List Prerequisite :=
  let isReason (name : String) : Bool := ps.any fun p => p.name == name && !p.orderOnly
  (ps.foldl (fun kept p =>
    if kept.any (·.name == p.name) then kept
    else { p with orderOnly := !isReason p.name } :: kept) []).reverse

/-- The variables that a recipe finds. -/
def automaticScope (b : Book) (t : Target) : Scope :=
  let ps := t.prerequisites.filter (!·.isLate)
  let stem := t.stem.getD (stemWithoutSuffix b t.name)
  let usual := ((b.find? ".DEFAULT").bind (·.recipe))
  let isUsual := t.recipe.isSome && t.recipe == usual
  let first := ((ps.find? (!·.orderOnly)).map fun p => placeOf b p.name).getD ""
  let once := withoutRepeats ps
  let names (ps : List Prerequisite) : String := unwords (ps.map fun p => placeOf b p.name)
  [("<", if isUsual then t.place else first), ("*", stem), ("@", t.place), ("%", ""),
    ("+", names (ps.filter (!·.orderOnly))), ("^", names (once.filter (!·.orderOnly))),
    ("?", names (once.filter fun p => !p.orderOnly && p.changed)),
    ("|", names (once.filter (·.orderOnly)))].map fun (n, value) => (n, automaticVariable value)

/-- Set a variable of a pattern that a target fits. -/
def putPatternVariable (k : Key) (p : PatternVariable) : Making Unit := do
  let b ← get
  let old := ((b.target? k).bind (·.patternScope)).bind (·.lookup p.name)
  let isKept := p.how = .ifMissing && (old.isSome || (b.vars.lookup p.name).isSome)
  if !isKept then
    let value ←
      match p.how, old with
      | .more, some v =>
        pure (if v.value = "" then p.content.value else v.value ++ " " ++ p.content.value)
      | .output, _ => shellFunction readers.expand (← expand p.content.value)
      | _, _ => pure p.content.value
    let recursive := match p.how, old with
      | .more, some v => v.recursive
      | _, _ => p.content.recursive
    let v := { p.content with
      value, recursive, appends := p.how = .more && (old.map (·.appends)).getD true }
    modify fun b => b.adjusted k fun t => { t with patternScope := t.patternScope.map (Book.put p.name v) }

/-- Set the variables of patterns that a target fits, and what it is made for. -/
def putPatternVariables : Nat → Key → Making Unit
  | 0, _ => pure ()
  | fuel + 1, k => do
    let b ← get
    match b.target? k with
    | none => pure ()
    | some t => do
      match t.parent with
      | some parent => putPatternVariables fuel parent
      | none => pure ()
      let fitting := b.patternVariables.filter (·.target.fits t.name)
      if t.patternScope.isNone && !fitting.isEmpty then
        modify fun b => b.adjusted k fun t => { t with patternScope := some [] }
        for p in fitting do putPatternVariable k p

/-- Set the variables that the recipe of a target finds. -/
def prepareScope (k : Key) : Making Unit := do
  putPatternVariables 1000 k
  let b ← get
  let scope := ((b.target? k).map (automaticScope b)).getD []
  modify fun b => b.adjusted k fun t =>
    { t with scope := scope.foldl (fun s (n, v) => Book.put n v s) t.scope }

/-! ### Rules that fit -/

/-- A rule of a pattern that fits a target. -/
structure Candidate where
  /-- The number of the rule, and that of the pattern among its targets. -/
  number : Nat
  place : Nat
  rule : PatternRule
  stem : String
  /-- Is the directory of the target left out of the stem? -/
  isBelow : Bool
  /-- The length of the stem with the directory. -/
  size : Nat

def Pattern.fitsAll (p : Pattern) : Bool :=
  p = .around [] []

/-- A name up to its last slash, but for one at the end, and what is behind it. -/
def directorySplit (name : String) : String × String :=
  match name.toList.reverse with
  | '/' :: cs =>
    let (dir, base) := pathSplit (.ofList cs.reverse)
    (dir, base ++ "/")
  | _ => pathSplit name

/-- The rules that fit a target, the closest first. -/
def candidatesFor (b : Book) (inUse : List Nat) (isNested : Bool) (name : String) : List Candidate :=
  let (dir, base) := directorySplit name
  let all := b.patterns.zipIdx.flatMap fun (rule, number) =>
    if !rule.prerequisites.isEmpty && rule.recipe.isNone || inUse.contains number then []
    else
      rule.targets.zipIdx.filterMap fun (p, place) =>
        if isNested && p.fitsAll && !rule.isTerminal then none
        else
          let isBelow := dir != "" && !p.text.toList.contains '/'
          (p.stem? (if isBelow then base else name)).map fun stem =>
            { number, place, rule, stem, isBelow
              size := stem.length + if isBelow then dir.length else 0 : Candidate }
  let isClose := all.any fun c => !((c.rule.targets[c.place]?).map Pattern.fitsAll).getD true
  let usable := all.filter fun c =>
    !(c.rule.prerequisites.isEmpty && c.rule.recipe.isNone) &&
      (!isClose || c.rule.isTerminal || !c.rule.targets.any Pattern.fitsAll)
  usable.mergeSort fun x y => decide (x.size ≤ y.size)

/-- What a rule of a pattern says of a target. -/
structure Found where
  prerequisites : List Prerequisite
  recipe : Option Recipe
  stem : String
  together : List String
  pattern : String

/-! ### Looking -/

/-- The words of a text; references may hold blanks. -/
def wordsOutside : Nat → List Char → List (List Char)
  | 0, _ => []
  | fuel + 1, text =>
    match text.dropWhile isSpace with
    | [] => []
    | '|' :: cs => ['|'] :: wordsOutside fuel cs
    | cs =>
      let (word, rest) := go (cs.length + 1) [] cs
      word :: wordsOutside fuel rest
where
  /-- The first word, given what has been read of it, reversed. -/
  go : Nat → List Char → List Char → List Char × List Char
    | 0, word, cs => (word.reverse, cs)
    | _, word, [] => (word.reverse, [])
    | fuel + 1, word, '$' :: d :: ds =>
      if d == '(' || d == '\x7b' then
        match upToClosing d 0 ds [] with
        | some (inside, rest) => go fuel (closingOf d :: (inside.reverse ++ d :: '$' :: word)) rest
        | none => ((d :: '$' :: word).reverse ++ ds, [])
      else go fuel (d :: '$' :: word) ds
    | fuel + 1, word, c :: cs =>
      if isBlank c then (word.reverse, c :: cs)
      else if c == '|' then ((c :: word).reverse, cs)
      else go fuel (c :: word) cs

/-- The prerequisites that a rule names for a target. -/
def prerequisitesBy (k : Option Key) (name : String) (c : Candidate) : Making (List Prerequisite) := do
  let dir := if c.isBelow then (directorySplit name).1 else ""
  let mut found : List Prerequisite := []
  for p in c.rule.prerequisites do
    if p.isLate then
      let scope := [("*", automaticVariable c.stem), ("@", automaticVariable name)]
      let mut orderOnly := false
      for word in wordsOutside (p.name.length + 1) p.name.toList do
        if word == ['|'] then orderOnly := true
        else
          let isOpen := word.contains '%'
          let text : List Char :=
            match Text.splitFirst '%' word with
            | none => word
            | some (a, z) => a ++ (if c.isBelow then "$(*F)".toList else "$*".toList) ++ z
          let value ← within (fun b => { b with scopes := [scope], target := k })
            (readers.expand text)
          let names ← prerequisitesIn value.toList
          found := found ++ names.map fun q =>
            { q with
              name := if isOpen then dir ++ q.name else q.name
              orderOnly := orderOnly || q.orderOnly }
    else
      let text := match Text.splitFirst '%' p.name.toList with
        | none => p.name
        | some (a, z) => dir ++ String.ofList a ++ c.stem ++ String.ofList z
      let names ← filesOf [text.toList]
      found := found ++ names.map fun name => { name, orderOnly := p.orderOnly }
  return found

/-- Enter a file that is made on the way. -/
def enterBetween (name : String) (f : Found) : Making Unit := do
  let b ← get
  let wasKnown := (b.find? name).isSome
  let isPrecious := ((b.find? f.pattern).map (·.isPrecious)).getD false
  modify fun b => (b.withTarget name).adjusted ⟨name, 0⟩ fun t =>
    { t with
      prerequisites := f.prerequisites.map fun p => { p with changed := false }
      recipe := f.recipe, stem := some f.stem, together := f.together
      isTarget := true, isIntermediate := true, isSearched := true
      isSecondary := t.isSecondary || wasKnown, isPrecious := t.isPrecious || isPrecious }
  for p in f.prerequisites do
    modify fun b => (b.withTarget p.name).adjusted ⟨p.name, 0⟩ fun t =>
      { t with isSearched := t.isSearched || p.changed }

/-- Is everything there, or mentioned, or does a rule lead to it, that a rule makes a target from?
Nothing is answered if not, and else what is made on the way. -/
def usable? (search : String → Making (Option Found)) (isNested : Bool) (own : List Prerequisite) :
    List Prerequisite → Making (Option (List (String × Found)))
  | [] => return some []
  | p :: ps => do
    let b ← get
    if b.impossible.contains p.name then return none
    let isThere ←
      if own.any (·.name == p.name) || (b.find? p.name).isSome then pure true
      else if (← ageAt p.name) != .missing then pure true
      else pure (← placeOf? p.name).isSome
    if isThere then usable? search isNested own ps
    else if !isNested then return none
    else
      match ← search p.name with
      | none => do
        modify fun b => { b with impossible := p.name :: b.impossible }
        return none
      | some f => return (← usable? search isNested own ps).map ((p.name, f) :: ·)

/-- Look for a rule of a pattern for a target, given the rules that are in use, whether the target is
made on the way to another, and its own prerequisites. -/
def searchRule : Nat → List Nat → Option Key → String → List Prerequisite → Making (Option Found)
  | 0, _, _, _, _ => return none
  | fuel + 1, inUse, key, name, own => do
    let mut rejected : List Nat := []
    for isNested in [false, true] do
      for (c, n) in (candidatesFor (← get) inUse key.isNone name).zipIdx do
        if !rejected.contains n && !(isNested && c.rule.isTerminal) then
          let ps ← prerequisitesBy key name c
          let search (name : String) : Making (Option Found) :=
            searchRule fuel (c.number :: inUse) none name []
          match ← usable? search isNested own ps with
          | none =>
            let b ← get
            if ps.any fun p => b.impossible.contains p.name then rejected := n :: rejected
          | some between => return some (← foundBy name c ps between)
    return none
where
  /-- What a rule says of the target, after the files on the way are entered. -/
  foundBy (name : String) (c : Candidate) (ps : List Prerequisite) (between : List (String × Found)) : Making Found := do
    for (name, f) in between do enterBetween name f
    let dir := if c.isBelow then (directorySplit name).1 else ""
    let stem := dir ++ c.stem
    let others := c.rule.targets.zipIdx.filter fun (_, n) => n != c.place
    let isFree (p : Prerequisite) : Bool := c.rule.isTerminal && !between.any (·.1 == p.name)
    return {
      prerequisites := ps.map fun p => { p with changed := isFree p }
      recipe := c.rule.recipe, stem
      together := (others.map fun (p, _) => p.filled stem).reverse
      pattern := ((c.rule.targets[c.place]?).map Pattern.text).getD "" }

/-- How many rules may follow one another on the way. -/
def searchDepth : Nat := 100

/-- Look for a rule of a pattern for a target, and put down what it says. -/
def searchFor (k : Key) : Making Unit := do
  match (← get).target? k with
  | none => pure ()
  | some t => do
    match ← searchRule searchDepth [] (some k) t.name t.prerequisites with
    | none => pure ()
    | some f => do
      for p in f.prerequisites do
        modify fun b => (b.withTarget p.name).adjusted ⟨p.name, 0⟩ fun t =>
          { t with isSearched := t.isSearched || p.changed }
      let b ← get
      let isPrecious := ((b.find? f.pattern).map (·.isPrecious)).getD false
      let ps := f.prerequisites.map fun p => { p with changed := false }
      modify fun b => b.adjusted k fun t =>
        { t with
          prerequisites := ps ++ t.prerequisites, recipe := f.recipe, stem := some f.stem
          together := f.together ++ t.together, isTarget := true, isPrecious := t.isPrecious || isPrecious }
      for name in f.together do
        modify fun b => (b.withTarget name).adjusted ⟨name, 0⟩ fun t => { t with isTarget := true }
    modify fun b => b.adjusted k fun t => { t with isSearched := true }

end Ensemble.Utility.Making
