import Ensemble.Utility.Making.Running

/-!
# Ensemble.Utility.Making.Update

**Making targets.** A target is made if it is not there, or if something that it is made from is newer
or has been made, too. What it is made from comes first. A file that is only made on the way to another
is not made if the other is newer than all that it would be made from.
-/

namespace Ensemble.Utility.Making

/-! ### Ages -/

/-- The entry that stands for all entries of a target. -/
def Key.first (k : Key) : Key :=
  ⟨k.name, 0⟩

/-- Change an entry. -/
def adjust (k : Key) (f : Target → Target) : Making Unit :=
  modify fun b => b.adjusted k f

/-- An entry. -/
def targetAt (k : Key) : Making Target := do
  return ((← get).target? k).getD { name := k.name, place := k.name }

/-- The age of a target; its file may be in another directory, unless that does not count. -/
def ageOf (k : Key) (looks : Bool) : Making Age := do
  let t ← targetAt k
  match t.age with
  | some age => return age
  | none => do
    let mut age ← ageAt t.place
    if age == .missing && looks && !t.isHere then
      match ← placeOf? t.name with
      | none => pure ()
      | some place => do
        adjust k fun t => { t with place }
        match ((← get).find? place).bind (·.age) with
        | some .old => age := .old
        | some .new => age := .new
        | _ => age ← ageAt place
    tellSkew (← targetAt k).place age
    let isUpdated := (← targetAt k.first).isUpdated
    let found := age
    for other in (← get).keysOf k.name do
      adjust other fun t =>
        let isStill := t.isIntermediate && !(found != .missing && !t.isUpdated && !t.isSearched)
        { t with
          isIntermediate := isStill
          age := if t.isUpdated == isUpdated || other == k then some found else t.age }
    return age

/-! ### Telling -/

/-- Tell that a target cannot be made, or that something cannot that it is made from. -/
def tellUnmade : Nat → Key → Making Unit
  | 0, _ => pure ()
  | fuel + 1, k => do
    let b ← get
    let t ← targetAt k
    let culprit := t.prerequisites.find? fun p =>
      match b.find? p.name with
      | some q => q.isUpdated && q.outcome.rank > Outcome.untried.rank && t.untold
      | none => false
    match culprit with
    | some p => tellUnmade fuel ⟨p.name, 0⟩
    | none => do
      let told := "*** No rule to make target '" ++ t.place ++ "'" ++
        (match t.parent with | some p => ", needed by '" ++ placeOf b p.name ++ "'" | none => "")
      if b.manner.keepGoing then
        tellFailure (told ++ ".")
        adjust k fun t => { t with untold := false }
      else
        tellFailure (told ++ ".  Stop.")
        leave 2

/-! ### The end of making -/

/-- Is a line of a recipe run even if nothing else is? -/
def hasPlainLine (b : Book) (r : Recipe) : Bool :=
  (linesOf b r).any fun l => !(lineMarks l).anyway

/-- Give a file the time of now. -/
def touch (place : String) : Making Bool := do
  let b ← get
  if !b.manner.silent then sayLine ("touch " ++ place)
  match ← ask (.openFile place { writes := true, create := true }) with
  | .error e => do
    tellAt none ("touch: open: " ++ place ++ ": " ++ e.message)
    return false
  | .ok fd => do
    let _ ← ask (.close fd)
    let _ ← ask (.setTime place (← ask .clock) true)
    return true

/-- Note that a target is finished, given whether its recipe has run. -/
def finish (k : Key) (ran : Bool) : Making Unit := do
  let b ← get
  adjust k fun t => { t with isUpdated := true }
  let t ← targetAt k
  let mut touched := false
  if b.manner.touching && t.outcome = .done then
    match t.recipe with
    | none => pure ()
    | some r =>
      if hasPlainLine b r && !t.isPhony then
        let isDone ← touch t.place
        adjust k fun t => { t with outcome := if isDone then .done else .failed }
        modify fun b => { b with started := b.started + 1 }
        touched := true
  adjust k fun t => { t with ageBefore := t.ageBefore.orElse fun _ => t.age }
  if ran && !t.isPhony || touched then
    let isOnlySaid := b.manner.onlyAsked || b.manner.onlyTold || b.manner.touching
    let isNew := match t.recipe with
      | some r => isOnlySaid && hasPlainLine b r
      | none => t.isTarget
    adjust k fun t => { t with age := if isNew then some .new else none }
  let t ← targetAt k
  if t.isDouble then
    let keys := (← get).keysOf k.name
    let mut isAll := true
    for other in keys do
      if !(← targetAt other).isUpdated then isAll := false
    if isAll && ran then
      for other in keys do adjust other fun o => { o with age := t.age }
  if ran && t.outcome != .untried then
    for name in t.together do
      if name != k.name then
        adjust ⟨name, 0⟩ fun o =>
          { o with isUpdated := true, outcome := t.outcome, age := if o.isPhony then o.age else none }
  else if t.outcome = .untried then adjust k fun t => { t with outcome := .done }

/-- Make a target by its recipe. -/
def remake (k : Key) : Making Unit := do
  let b ← get
  let t ← targetAt k
  match t.recipe with
  | none => do
    if t.isPhony || t.isTarget then adjust k fun t => { t with outcome := .done }
    else
      if !b.isRemaking || !t.mayMiss then tellUnmade 1000 k
      adjust k fun t => { t with outcome := .failed }
    finish k false
  | some r => do
    let isEmpty := r.lines.all fun l => l.toList.all fun c =>
      isSpace c || c == '-' || c == '@' || c == '+'
    let isTouched := b.manner.touching && !(linesOf b r).any fun l => (lineMarks l).anyway
    if isTouched then
      adjust k fun t => { t with outcome := .done }
      finish k false
    else if isEmpty then
      adjust k fun t => { t with outcome := .done }
      finish k true
    else
      let result ← runRecipe k t r
      let outcome := match result with
        | .failed => Outcome.failed
        | .wanted => .wanted
        | _ => .done
      adjust k fun t => { t with outcome }
      finish k (result != .wanted)
      if result = .failed && !t.mayMiss && !b.manner.keepGoing then leave 2

/-! ### Making -/

/-- Tell of a target that is made from itself, which does not count. -/
def tellCircle (target source : String) : Making Unit :=
  tellAt none ("Circular " ++ target ++ " <- " ++ source ++ " dependency dropped.")

/-- Do something for a target, and hand down to it whether it may be missing. -/
def handingDown (parent k : Key) (act : Making α) : Making α := do
  let b ← get
  if !b.isRemaking then act
  else
    let own := (← targetAt k).mayMiss
    let outer := (← targetAt parent).mayMiss
    adjust k fun t => { t with mayMiss := outer }
    let a ← act
    adjust k fun t => { t with mayMiss := own }
    return a

/-- Find how a target is made if no rule says so. -/
def findRecipe (k : Key) : Making Unit := do
  let t ← targetAt k
  if !t.isPhony && t.recipe.isNone && !t.isSearched then searchFor k
  let usual := (((← get).find? ".DEFAULT").bind (·.recipe))
  adjust k fun t => if t.recipe.isNone && !t.isTarget then { t with recipe := usual } else t

/-- Make what a target is made from, given how targets are made; must the target be made, too, which has
an age? -/
def checkFrom (update : Key → Making Outcome) : Nat → Key → Age → Bool → Making (Outcome × Bool)
  | 0, _, _, must => return (.failed, must)
  | fuel + 1, k, age, must => do
    adjust k.first fun t => { t with isUpdating := true }
    let t ← targetAt k
    let result ←
      if t.isPhony || !t.isIntermediate then do
        let outcome ← update k
        let own ← ageOf k true
        pure (outcome, must || own == .missing || own.isAfter age)
      else do
        findRecipe k
        let own ← ageOf k true
        if own != .missing && own.isAfter age then pure (.done, true)
        else do
          let mut outcome := Outcome.done
          let mut needed := must
          let mut kept : List Prerequisite := []
          for p in (← targetAt k).prerequisites do
            let key : Key := ⟨p.name, 0⟩
            if (← targetAt key).isUpdating then tellCircle t.name p.name
            else
              kept := p :: kept
              if outcome = .done || (← get).manner.keepGoing then
                adjust key fun q => { q with parent := some k }
                let (new, must) ← checkFrom update fuel key age needed
                outcome := outcome.worse new
                if !p.orderOnly then needed := must
          let all := kept.reverse
          adjust k fun t => { t with prerequisites := all }
          pure (outcome, needed)
    adjust k.first fun t => { t with isUpdating := false }
    return result

/-- How deep targets may be made from one another. -/
def updateDepth : Nat := 10000

/-- Make what an entry is made from, given its age, and whether it must be made; the answer is how that
came out, and whether it must be made now. -/
def makeSources (update : Key → Making Outcome) (k : Key) (age : Age) (must : Bool) :
    Making (Outcome × Bool) := do
  let mut outcome := Outcome.done
  let mut needed := must
  let t ← targetAt k
  for owner in k :: (t.together.filter (· != k.name)).map fun name => ⟨name, 0⟩ do
    let mut kept : List Prerequisite := []
    for p in (← targetAt owner).prerequisites do
      let key : Key := ⟨p.name, 0⟩
      let before ← ageOf key true
      if (← targetAt key).isUpdating then tellCircle t.place (placeOf (← get) p.name)
      else if outcome != .done && !(← get).manner.keepGoing then kept := p :: kept
      else
        adjust key fun q => { q with parent := some k }
        let (new, must) ← handingDown k key (checkFrom update updateDepth key age needed)
        outcome := outcome.worse new
        if !p.orderOnly then needed := must
        let after ← ageOf key true
        kept := { p with changed := after != before || before == .missing } :: kept
    let all := kept.reverse
    adjust owner fun t => { t with prerequisites := all }
  if needed || (← get).manner.always then
    let t ← targetAt k
    let mut kept : List Prerequisite := []
    for p in t.prerequisites do
      let key : Key := ⟨p.name, 0⟩
      if !(← targetAt key).isIntermediate || outcome != .done && !(← get).manner.keepGoing then
        kept := p :: kept
      else
        let before ← ageOf key true
        adjust key fun q => { q with parent := some k }
        let new ← handingDown k key (update key)
        outcome := outcome.worse new
        let after ← ageOf key true
        kept := { p with changed := t.isPhony && t.recipe.isSome || after != before } :: kept
    let all := kept.reverse
    adjust k fun t => { t with prerequisites := all }
  return (outcome, needed)

/-- Make an entry of a target, if that is needed, given how others are made. -/
def updateEntry (update : Key → Making Outcome) (isTop : Bool) (k : Key) : Making Outcome := do
  ask .tick
  let t ← targetAt k
  if t.isUpdated then
    if t.outcome.rank > Outcome.untried.rank then
      if t.untold && !t.mayMiss then tellUnmade 1000 k
      return t.outcome
    return .done
  adjust k fun t => { t with untold := t.mayMiss }
  adjust k.first fun t => { t with isUpdating := true }
  let age ← ageOf k true
  let mut isMissing := age == .missing
  for name in t.together do
    if !isMissing then isMissing := (← ageOf ⟨name, 0⟩ true) == .missing
  findRecipe k
  let (outcome, needed) ← makeSources update k age isMissing
  adjust k.first fun t => { t with isUpdating := false }
  let b ← get
  if outcome != .done then
    adjust k fun t => { t with outcome := if outcome = .untried then .failed else outcome }
    finish k false
    if isTop && b.manner.keepGoing && !b.manner.onlyTold && !b.manner.onlyAsked then
      tellAt none ("Target '" ++ t.place ++ "' not remade because of errors.")
    return outcome
  let mut must := needed
  let mut isChanged := false
  let mut kept : List Prerequisite := []
  for p in (← targetAt k).prerequisites do
    let key : Key := ⟨p.name, 0⟩
    let own ← ageOf key true
    if !p.orderOnly then
      if own == .missing && !(← targetAt key).isIntermediate then must := true
      isChanged := isChanged || p.changed
    kept := { p with changed := p.changed || isMissing || own.isAfter age } :: kept
  let all := kept.reverse
  adjust k fun t => { t with prerequisites := all }
  let t ← targetAt k
  if t.isDouble && t.prerequisites.isEmpty then must := true
  else if !isMissing && t.isTarget && !isChanged && t.recipe.isNone then must := false
  else if !must && t.recipe.isSome && b.manner.always then must := true
  if !must then
    finish k false
    return .done
  if t.place != t.name then
    adjust k fun t => { t with place := t.name, isHere := true }
  remake k
  adjust k fun t => { t with isUpdated := true }
  return (← targetAt k).outcome

/-- Make a target, if that is needed. -/
def update : Nat → Bool → Key → Making Outcome
  | 0, _, _ => return .failed
  | fuel + 1, isTop, k => do
    let mut outcome := Outcome.done
    for key in (← get).keysOf k.name do
      let new ← updateEntry (update fuel false) isTop key
      if new != .done && !(← get).manner.keepGoing then return new
      outcome := outcome.worse new
    return outcome

/-- Make targets that have been asked for; how has that come out? -/
def updateGoals (goals : List String) : Making Outcome := do
  let mut status := Outcome.untried
  let mut isOver := false
  for goal in goals do
    if !isOver then
      let started := (← get).started
      let keys := (← get).keysOf goal
      for key in keys do
        let failed ← update updateDepth true key
        let t ← targetAt key
        if (failed != .done || t.isUpdated) && status.rank < Outcome.wanted.rank then
          if t.outcome != .done then
            status := t.outcome
            let b ← get
            isOver := isOver || b.manner.onlyAsked && !b.manner.keepGoing
          else if some (← ageOf key true) != t.ageBefore then status := .done
      let b ← get
      let t ← targetAt ⟨goal, 0⟩
      if t.outcome = .done && b.started = started && !b.manner.silent && !b.manner.onlyAsked then
        sayLine (b.name ++ ": " ++
          (if t.isPhony || t.recipe.isNone then "Nothing to be done for '" ++ t.place ++ "'."
          else "'" ++ t.place ++ "' is up to date."))
  return status

end Ensemble.Utility.Making
