import Ensemble.Utility.Making.Expansion

/-!
# Ensemble.Utility.Making.Assignment

**Setting variables.** A line that sets a variable has its name before a mark, which says how the value
is taken; words before the name say who gets it. A value is not replaced by one of a weaker origin.
-/

namespace Ensemble.Utility.Making

/-- The mark at the beginning of a text that says how a variable is set, and what is behind it. -/
def settingAt? : List Char → Option (Setting × List Char)
  | '=' :: cs => some (.recursive, cs)
  | '+' :: '=' :: cs => some (.more, cs)
  | '?' :: '=' :: cs => some (.ifMissing, cs)
  | '!' :: '=' :: cs => some (.output, cs)
  | ':' :: '=' :: cs => some (.simple, cs)
  | ':' :: ':' :: '=' :: cs => some (.simple, cs)
  | _ => none

/-- A setting of a variable that a text is. -/
structure Definition where
  name : List Char
  how : Setting
  value : List Char

/-- The setting of a variable that a text is, given what has been read of the name, reversed. -/
def definitionFrom? : Nat → List Char → List Char → Option Definition
  | 0, _, _ => none
  | _, _, [] => none
  | fuel + 1, name, c :: cs =>
    let found? (text : List Char) : Option Definition :=
      (settingAt? text).map fun (how, value) => ⟨name.reverse, how, value.dropWhile isSpace⟩
    if c == '#' then none
    else if c == '$' then
      match cs with
      | [] => none
      | d :: ds =>
        if d == '(' || d == '\x7b' then
          match upToClosing d 0 ds [] with
          | none => none
          | some (inside, rest) =>
            definitionFrom? fuel (closingOf d :: (inside.reverse ++ d :: c :: name)) rest
        else definitionFrom? fuel (d :: c :: name) ds
    else if isBlank c then found? (cs.dropWhile isSpace)
    else
      match found? (c :: cs) with
      | some d => some d
      | none => if c == ':' then none else definitionFrom? fuel (c :: name) cs

/-- The setting of a variable that a text is. -/
def definition? (text : List Char) : Option Definition :=
  definitionFrom? (text.length + 1) [] (text.dropWhile isSpace)

/-- What a line does with a variable. -/
inductive Deed
  | set
  /-- The lines that follow are its value. -/
  | define
  | undefine
deriving DecidableEq, Repr

/-- A line that does something with a variable. -/
structure Assignment where
  deed : Deed := .set
  isExported : Bool := false
  isOverriding : Bool := false
  isPrivate : Bool := false
  text : List Char

/-- What a line does with a variable, if it does; variables of targets are only set. -/
def assignmentFrom? (ofTarget : Bool) : Nat → Assignment → Option Assignment
  | 0, _ => none
  | fuel + 1, a =>
    match definition? a.text with
    | some _ => some a
    | none =>
      let (word, rest) := firstWord a.text
      let next (a : Assignment) : Option Assignment :=
        if rest.isEmpty then none else assignmentFrom? ofTarget fuel { a with text := rest }
      match word with
      | "export" => next { a with isExported := true }
      | "override" => next { a with isOverriding := true }
      | "private" => next { a with isPrivate := true }
      | "define" => if ofTarget then none else some { a with deed := .define, text := rest }
      | "undefine" => if ofTarget then none else some { a with deed := .undefine, text := rest }
      | _ => none

/-- What a line does with a variable, if it does. -/
def assignment? (ofTarget : Bool) (line : List Char) : Option Assignment :=
  let line := line.dropWhile isSpace
  if line.isEmpty then none else assignmentFrom? ofTarget (line.length + 1) { text := line }

/-! ### Variables -/

/-- Change a variable of a target, or one for all. -/
def adjustVariable (owner : Option Key) (name : String) (f : Variable → Variable) : Making Unit := do
  let change (s : Scope) : Scope := s.map fun (n, v) => if n == name then (n, f v) else (n, v)
  match owner with
  | none => modify fun b => { b with vars := change b.vars }
  | some k => modify fun b => b.adjusted k fun t => { t with scope := change t.scope }

/-- Put a variable into the scope of a target, or into that for all. -/
def putVariable (owner : Option Key) (name : String) (v : Variable) : Making Unit :=
  match owner with
  | none => modify fun b => b.withVariable name v
  | some k => modify fun b => b.adjusted k fun t => { t with scope := Book.put name v t.scope }

/-- Set a variable of a target, or one for all, unless it has a value of a stronger origin. -/
def setVariable (go : Expand) (owner : Option Key) (name : String) (how : Setting) (value : String)
    (origin : Origin) (spot : Option Spot) : Making Unit := do
  let b ← get
  let own := match owner with
    | none => b.vars.lookup name
    | some k => (b.target? k).bind fun t => t.scope.lookup name
  let keep (value : String) (recursive appends : Bool) : Making Unit := do
    let kept : Variable :=
      match own with
      | none => { value, recursive, origin, spot, appends }
      | some v =>
        if v.origin.rank ≤ origin.rank then { v with value, recursive, origin, spot, appends }
        else { v with appends }
    putVariable owner name kept
    if owner.isNone && name = ".RECIPEPREFIX" then
      modify fun b => { b with mark := (kept.value.toList.head?).getD '\t' }
  match how with
  | .recursive => keep value true false
  | .simple => keep (← go value.toList) false false
  | .output => do
    let text ← shellFunction go (← go value.toList)
    keep text true false
  | .ifMissing => if (b.lookup? name).isNone then keep value true false
  | .more => do
    let old := if owner.isSome then own else b.lookup? name
    let appends := owner.isSome && (own.map (·.appends)).getD true
    match old with
    | none => keep value true appends
    | some v => do
      let value ← if v.recursive then pure value else go value.toList
      if value != "" then
        keep (if v.value = "" then value else v.value ++ " " ++ value) v.recursive appends

/-- Expand the name of a variable that is set. -/
def variableName (go : Expand) (spot : Option Spot) (name : List Char) : Making String := do
  let name := trimmed (← go name).toList
  if name.isEmpty then refuseAt spot "empty variable name"
  return .ofList name

/-- Set a variable as a text says. -/
def setAs (go : Expand) (owner : Option Key) (text : List Char) (origin : Origin) (spot : Option Spot) :
    Making (Option String) := do
  match definition? text with
  | none => return none
  | some d => do
    let name ← variableName go spot d.name
    setVariable go owner name d.how (.ofList d.value) origin spot
    return some name

/-- Forget a variable, unless it has a value of a stronger origin. -/
def forgetVariable (name : String) (origin : Origin) : Making Unit :=
  modify fun b => { b with
    vars := b.vars.filter fun (n, v) => n != name || decide (origin.rank < v.origin.rank) }

/-- Set a variable for targets. One that a command line or the environment has set keeps that value. -/
def setForTargets (go : Expand) (targets : List String) (a : Assignment) (spot : Option Spot) :
    Making Unit := do
  let origin := if a.isOverriding then Origin.override else .file
  let finish (v : Variable) (outer : Option Variable) : Variable :=
    let v := { v with
      isLocal := true, isPrivate := a.isPrivate
      passing := if a.isExported then .always else .unsaid }
    match outer with
    | some g =>
      if v.origin != .override && (g.origin == .environmentFirst || g.origin == .commandLine) then
        { v with value := g.value, origin := g.origin, recursive := g.recursive, appends := false }
      else v
    | none => v
  for target in targets do
    match Pattern.ofString target with
    | .around before after => do
      match definition? a.text with
      | none => pure ()
      | some d => do
        let name ← variableName go spot d.name
        let value := String.ofList d.value
        let value ← if d.how = .simple then go d.value else pure value
        let outer := (← get).lookup? name
        let content := finish
          { value, recursive := d.how != .simple, origin, spot } outer
        let entry : PatternVariable := { target := .around before after, name, how := d.how, content }
        modify fun b =>
          let isShorter (p : PatternVariable) : Bool := p.target.text.length ≤ entry.target.text.length
          let (first, rest) := b.patternVariables.span isShorter
          { b with patternVariables := first ++ entry :: rest }
    | .word target => do
      let target := String.ofList target
      modify fun b => b.withTarget target
      let key : Key := ⟨target, 0⟩
      let named ← within (fun b => { b with scopes := [], target := some key })
        (setAs go (some key) a.text origin spot)
      match named with
      | none => refuseAt spot "Malformed target-specific variable definition"
      | some name => do
        let outer := (← get).vars.lookup name
        adjustVariable (some key) name fun v => finish v outer

end Ensemble.Utility.Making
