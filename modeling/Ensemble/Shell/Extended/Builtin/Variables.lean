import Ensemble.Shell.Extended.Builtin.Basic
import Ensemble.Shell.Process

/-!
# Ensemble.Shell.Extended.Builtin.Variables

Commands that **declare variables**, give them values, take them away, and list them. Their arguments are
words, or assignments that have been taken apart before (`Operand`).
-/

namespace Ensemble.Shell.Extended.Builtin

/-- An argument of a command that declares. -/
inductive Operand
  | word (text : String)
  | setting (s : Setting)

namespace Operand

/-- The argument as one word. -/
def text : Operand → String
  | .word text => text
  | .setting s => s.text

/-- The name, the place behind it, and what is assigned, if anything is. -/
def parts (o : Operand) : String × Option String × Option Setting :=
  match o with
  | .setting s => (s.name, s.place, some s)
  | .word text =>
    match Text.splitFirst '=' text.toList with
    | none =>
      let (name, place) := nameAndPlace text
      (name, place, none)
    | some (target, value) =>
      let appends := target.getLast? == some '+'
      let target := if appends then target.dropLast else target
      let (name, place) := nameAndPlace (.ofList target)
      (name, place, some ⟨name, place, appends, .one (.ofList value)⟩)

end Operand

/-- A command that declares. -/
abbrev Declaring := List Operand → Act Nat

/-- Letters that are turned on and off, and what they are turned on for. -/
structure Flags where
  on : List Char := []
  off : List Char := []
  operands : List Operand := []

namespace Flags

def has (f : Flags) (c : Char) : Bool :=
  f.on.contains c

/-- Take letters off arguments. -/
def take (allowed offToo : List Char) : List Operand → Flags → Act Flags
  | [], f => return f
  | .word w :: rest, f => do
    match w.toList with
    | ['-', '-'] => return { f with operands := rest }
    | '-' :: c :: cs => do
      match (c :: cs).find? (!allowed.contains ·) with
      | some wrong => misuse ("-" ++ wrong.toString ++ ": invalid option")
      | none => take allowed offToo rest { f with on := f.on ++ c :: cs }
    | '+' :: c :: cs => do
      if offToo.isEmpty then return { f with operands := .word w :: rest }
      match (c :: cs).find? (!offToo.contains ·) with
      | some wrong => misuse ("+" ++ wrong.toString ++ ": invalid option")
      | none => take allowed offToo rest { f with off := f.off ++ c :: cs }
    | _ => return { f with operands := .word w :: rest }
  | rest, f => return { f with operands := rest }

/-- A variable of the kind that letters tell. -/
def mark (f : Flags) (v : Variable) : Variable :=
  let turned (c : Char) (now : Bool) : Bool := (now || f.has c) && !f.off.contains c
  let v :=
    { v with
      isWhole := turned 'i' v.isWhole
      exported := turned 'x' v.exported
      traced := turned 't' v.traced
      letters :=
        if f.has 'l' then some false
        else if f.has 'u' then some true
        else if f.off.contains 'l' && v.letters == some false then none
        else if f.off.contains 'u' && v.letters == some true then none
        else v.letters }
  match v.elements with
  | some _ => v
  | none =>
    if f.has 'A' then
      { v with
        elements := some (.keyed (v.value.map (fun value => [("0", value)])).toList.flatten)
        isBare := v.value.isNone }
    else if f.has 'a' then
      { v with
        elements := some (.row (v.value.map (fun value => [(0, value)])).toList.flatten)
        isBare := v.value.isNone }
    else v

end Flags

/-! ### Listing -/

/-- A variable as a command could declare it. -/
def declaration (name : String) (v : Variable) : String :=
  let letters := attributes v
  "declare -" ++ (if letters = "" then "-" else letters) ++ " " ++ name ++
    (match v.elements, v.value with
    | some e, _ => if v.isBare then "" else "=" ++ elementsText e
    | none, some value => "=" ++ Quoting.value value
    | none, none => "") ++ "\n"

/-- A variable as a script could set it. -/
def setLine (name : String) (v : Variable) : String :=
  match v.elements, v.value with
  | some e, _ => if v.isBare then "" else name ++ "=" ++ elementsText e ++ "\n"
  | none, some value => name ++ "=" ++ Quoting.assigned value ++ "\n"
  | none, none => ""

/-- Bindings in the order of their names. -/
def sorted (xs : List (String × α)) : List (String × α) :=
  xs.mergeSort fun a b => decide (a.1 ≤ b.1)

/-- Find out the values that are listed. -/
def refreshListed : Act Unit := do
  let s ← get
  listedNames.forM fun name =>
    if name = "PIPESTATUS" && s.pipeStatuses.isEmpty then return () else refresh name

/-- List the variables that are wanted. -/
def listDeclared (wanted : Variable → Bool) : Act Unit := do
  refreshListed
  for (name, v) in sorted (← get).bindings do
    if wanted v then say (declaration name v)

/-- List functions: their names only? -/
def listFunctions (namesOnly exported : Bool) : Act Unit := do
  let s ← get
  for (name, body) in sorted s.functions do
    let isExported := s.exportedFunctions.contains name
    if isExported || !exported then
      if namesOnly then say ("declare -f" ++ (if isExported then "x" else "") ++ " " ++ name ++ "\n")
      else
        say (Listing.function name body)
        if isExported then say ("declare -fx " ++ name ++ "\n")

/-- List all variables and functions as a script could set them. -/
def listAll : Act Unit := do
  refreshListed
  for (name, v) in sorted (← get).bindings do
    say (setLine name v)
  for (name, body) in sorted (← get).functions do
    say (Listing.function name body)

/-! ### Declaring -/

/-- Is a name local to the function that runs already? -/
def isLocalName (s : Shell) (name : String) : Bool :=
  (s.saved.head?.getD []).any fun
    | .variable n _ => n == name
    | .modes _ => false

/-- Make a name local to the function that runs. -/
def makeLocal (name : String) : Act Unit := do
  let s ← get
  if !isLocalName s name then
    keep (.variable name (s.declared? name))
    modify (·.setVariable name none)

/-- Complain about what a declaration cannot do. -/
def refuseDeclaration (told : String) : Act Bool := do
  complainAt told
  return false

/-- Declare one name. Does the command speak of values that cannot change? -/
def declareOne (f : Flags) (isLocal speaks : Bool) (o : Operand) : Act Bool := do
  let (name, place, setting) := o.parts
  if !isName name.toList then
    notName o.text
    return false
  let isReference := f.has 'n' || f.off.contains 'n'
  let s ← get
  let name := if isReference || isLocal then name else s.target name
  let old := (s.declared? name).getD {}
  if old.readOnly && (setting.isSome || isLocal || f.off.contains 'r') then
    if speaks then return ← refuseDeclaration (name ++ ": readonly variable")
    dropReadOnly name
  match old.elements with
  | some (.row _) =>
    if f.has 'A' && !isLocal then
      return ← refuseDeclaration (name ++ ": cannot convert indexed to associative array")
  | some (.keyed _) =>
    if f.has 'a' && !isLocal then
      return ← refuseDeclaration (name ++ ": cannot convert associative to indexed array")
  | none => pure ()
  if f.off.contains 'a' || f.off.contains 'A' then
    return ← refuseDeclaration (name ++ ": cannot destroy array variables in this way")
  if isLocal then makeLocal name
  let old := ((← get).declared? name).getD {}
  let isMany := match setting with | some ⟨_, _, _, .many _⟩ => true | _ => place.isSome
  let f := if isMany && !f.has 'A' then { f with on := 'a' :: f.on } else f
  let v := f.mark old
  if isReference then
    let value := match setting with | some ⟨_, _, _, .one value⟩ => some value | _ => v.value
    if f.has 'n' && setting.isSome then
      let text := value.getD ""
      if text = "" then return ← refuseDeclaration "\x60': not a valid identifier"
      if !isName ((nameAndPlace text).1).toList then
        return ← refuseDeclaration ("\x60" ++ text ++ "': invalid variable name for name reference")
    if value == some name then
      return ← refuseDeclaration (name ++ ": nameref variable self references not allowed")
    modify (·.setVariable name (some { v with refers := f.has 'n', value }))
  else
    modify (·.setVariable name (some v))
    match setting with
    | some set => ({ set with name } : Setting).apply
    | none => pure ()
  if f.has 'r' then
    modify fun s => s.setVariable name ((s.declared? name).map ({ · with readOnly := true }))
  return true

/-- Tell variables that are named. -/
def tellDeclared (o : Operand) : Act Bool := do
  let name := o.text
  refresh name
  match (← get).declared? name with
  | some v => do
    say (declaration name v)
    return true
  | none => do
    complainAt (name ++ ": not found")
    return false

/-- Tell functions that are named. -/
def tellFunction (namesOnly : Bool) (o : Operand) : Act Bool := do
  let name := o.text
  match (← get).functions.lookup name with
  | some body => do
    say (if namesOnly then name ++ "\n" else Listing.function name body)
    return true
  | none => return false

/-- Has a variable all of what letters tell? -/
def isSuch (f : Flags) (v : Variable) : Bool :=
  let letters := (attributes v).toList
  f.on.all fun c => c == 'p' || c == 'g' || letters.contains c

def declare : Declaring := fun args => do
  let letters := "aAfFgiIlnprtux".toList
  let f ← Flags.take letters letters args {}
  if f.has 'f' || f.has 'F' then
    let namesOnly := f.has 'F'
    if f.operands.isEmpty then
      listFunctions namesOnly (f.has 'x')
      return 0
    return ← eachOf f.operands (tellFunction namesOnly)
  if f.has 'p' && !f.operands.isEmpty then return ← eachOf f.operands tellDeclared
  if f.operands.isEmpty then
    if f.on.isEmpty then listAll else listDeclared (isSuch f)
    return 0
  let isLocal := 0 < (← get).calls && !f.has 'g'
  eachOf f.operands (declareOne f isLocal true)

def local' : Declaring := fun args => do
  if (← get).calls = 0 then
    complainAt "can only be used in a function"
    return 1
  let letters := "aAgiIlnprtux".toList
  let f ← Flags.take letters letters args {}
  if f.operands.isEmpty then
    let s ← get
    for saved in (s.saved.head?.getD []).reverse do
      match saved with
      | .variable name _ => ((s.declared? name)).forM fun v => say (declaration name v)
      | .modes _ => pure ()
    return 0
  eachOf f.operands fun o => do
    if o.text = "-" then
      keep (.modes (← get).modes)
      return true
    declareOne f true true o

/-- Mark names, and assign to those that come with a value. -/
def mark (allowed : String) (lettersOn : List Char) (wanted : Variable → Bool) : Declaring := fun args => do
  let f ← Flags.take allowed.toList [] args {}
  if f.has 'f' then
    return ← eachOf f.operands fun o => do
      if ((← get).functions.lookup o.text).isNone then
        complainAt (o.text ++ ": not a function")
        return false
      modify fun s =>
        let others := s.exportedFunctions.filter (· != o.text)
        { s with exportedFunctions := if f.has 'n' then others else o.text :: others }
      return true
  if f.operands.isEmpty then
    listDeclared wanted
    if lettersOn.contains 'x' then listFunctions false true
    return 0
  let on := f.on.filter (['a', 'A'].contains ·)
  let f := if f.has 'n' then { f with on, off := lettersOn } else { f with on := on ++ lettersOn }
  eachOf f.operands fun o => do
    let done ← surviving do
      let fine ← declareOne f false false o
      if !fine then throw .dropped
    if done then
      match o.parts with
      | (_, _, some s) =>
        match s.value with
        | .one value => traceLine (s.target ++ s.mark ++ Quoting.tracedValue value)
        | .many _ => pure ()
      | _ => pure ()
    return done

def export' : Declaring :=
  mark "fnp" ['x'] (·.exported)

def readonly : Declaring :=
  mark "aAfp" ['r'] (·.readOnly)

/-! ### Taking away -/

/-- Take away the value at a place. -/
def unsetPlace (name key : String) : Act Bool := do
  let s ← get
  let name := s.target name
  match s.declared? name with
  | none => return true
  | some v =>
    if v.readOnly then return ← refuseDeclaration (name ++ ": cannot unset: readonly variable")
    match v.elements with
    | none =>
      if key = "0" then
        set (s.setVariable name none)
        return true
      refuseDeclaration (name ++ ": not an array variable")
    | some e => do
      let left : Elements ←
        match e with
        | .row items =>
          if key = "@" || key = "*" then pure (.row [])
          else do
            let n := (← evaluate "" key).toInt
            match e.placeOf n with
            | some p => pure (.row (items.filter (·.1 != p)))
            | none => do
              complainAt ("[" ++ key ++ "]: bad array subscript")
              pure e
        | .keyed items =>
          if key = "@" || key = "*" then pure (.keyed [])
          else pure (.keyed (items.filter (·.1 != bareKey key)))
      modify (·.setVariable name (some (v.withElements left)))
      return true

def unsetFunction (name : String) : Act Unit :=
  modify fun s =>
    { s with
      functions := s.functions.filter (·.1 != name)
      exportedFunctions := s.exportedFunctions.filter (· != name) }

/-- Take one name away. -/
def unsetOne (g : Shell.Given) (text : String) : Act Bool := do
  let s ← get
  if g.has 'f' then
    unsetFunction text
    return true
  let (name, place) := nameAndPlace text
  if !isName name.toList then
    if g.has 'v' || (text.toList.any fun c => c == ' ') then
      notName text
      return false
    unsetFunction text
    return true
  match place with
  | some key => unsetPlace name key
  | none =>
    let name := if g.has 'n' then name else s.target name
    match s.declared? name with
    | some v =>
      if v.readOnly then refuseDeclaration (name ++ ": cannot unset: readonly variable")
      else do
        set (s.setVariable name none)
        return true
    | none => do
      if !g.has 'v' && !g.has 'n' then unsetFunction name
      return true

def unset : Own := withOptions "fvn" "" fun g => eachOf g.operands (unsetOne g)

/-! ### Expressions -/

/-- Evaluate expressions; the last one is asked whether it is zero. -/
def evaluateEach : Int64 → List String → Act Int64
  | n, [] => return n
  | _, text :: texts => do evaluateEach (← evaluate "" text) texts

def let' : Own := fun args => do
  let args := if args.head? == some "--" then args.drop 1 else args
  if args.isEmpty then
    complainAt "expression expected"
    return 1
  match ← holding (evaluateEach 0 args) with
  | .ok n => return if n = 0 then 1 else 0
  | .error .dropped => return 1
  | .error e => throw e

end Ensemble.Shell.Extended.Builtin
