import Ensemble.Shell.Builtin.Basic
import Ensemble.Shell.Lookup

/-!
# Ensemble.Shell.Builtin.Names

Commands on the **names of commands**: aliases, where programs have been found, and what a name stands
for.
-/

namespace Ensemble.Shell.Builtin

/-! ### Aliases -/

/-- The number of places that aliases are dealt to. -/
def aliasBuckets : Nat := 39

/-- The number of places that the programs that have been found are dealt to. -/
def programBuckets : Nat := 31

/-- Names in the order of the places that they are dealt to. -/
def dealt (buckets : Nat) (bindings : List (String × α)) : List (String × α) :=
  bindings.mergeSort fun a b => decide (Shell.bucketOf buckets a.1 ≤ Shell.bucketOf buckets b.1)

def aliasLine (name value : String) : String :=
  name ++ "=" ++ inQuotes value ++ "\n"

/-- A name and its value; the name has one character at least. -/
def aliasAndValue (a : String) : String × Option String :=
  match a.toList with
  | c :: cs =>
    match Text.splitFirst '=' cs with
    | some (name, value) => (.ofList (c :: name), some (.ofList value))
    | none => (a, none)
  | [] => (a, none)

def setAlias (name value : String) : Act Unit :=
  modify fun s =>
    if (s.aliases.lookup name).isSome then
      { s with aliases := s.aliases.map fun (n, v) => if n == name then (n, value) else (n, v) }
    else { s with aliases := s.aliases ++ [(name, value)] }

/-- List aliases or set them, one after the other. -/
def aliases : List String → Act Nat
  | [] => return 0
  | a :: args => do
    match aliasAndValue a with
    | (name, some value) => do
      setAlias name value
      aliases args
    | (name, none) => do
      match (← get).aliases.lookup name with
      | some value => do
        say (aliasLine name value)
        aliases args
      | none => do
        complain ("alias: " ++ name ++ " not found")
        let _ ← aliases args
        return 1

def makeAlias : Own := fun args => do
  if args.isEmpty then
    say (String.join ((dealt aliasBuckets (← get).aliases).map fun (name, value) =>
      aliasLine name value))
    return 0
  else aliases args

def unalias : Own := .withOptions "a" "" fun g => do
  if g.has 'a' then
    modify fun s => { s with aliases := [] }
    return 0
  else
    let known := (← get).aliases
    let missing := g.operands.filter fun name => (known.lookup name).isNone
    missing.forM fun name => complain ("unalias: " ++ name ++ " not found")
    modify fun s => { s with aliases := s.aliases.filter fun (name, _) => !g.operands.contains name }
    return if missing.isEmpty then 0 else 1

/-! ### Programs -/

/-- Look for programs and keep in mind where they are. -/
def trackAll : List String → Act Nat
  | [] => return 0
  | name :: names => do
    Lookup.forget name
    let found ← Lookup.meaning true true none name
    let rest ← trackAll names
    match found with
    | .unknown => return 1
    | _ => return rest

def hash : Own := .withOptions "r" "" fun g => do
  if g.has 'r' then
    modify fun s => { s with tracked := [] }
    return 0
  else if g.operands.isEmpty then
    say (String.join ((dealt programBuckets (← get).tracked).map fun (_, path, doubted) =>
      path ++ (if doubted then "*" else "") ++ "\n"))
    return 0
  else trackAll g.operands

/-- Tell what a name stands for, in a sentence or as briefly as it could be written. -/
def describe (verbose : Bool) (other : Option String) (name : String) : Act Nat := do
  let tell (sentence brief : String) : Act Nat := do
    say ((if verbose then name ++ sentence else brief) ++ "\n")
    return 0
  let s ← get
  let missing : Act Nat := do
    if verbose then say (name ++ ": not found\n")
    return 127
  if (Keyword.ofText? Keyword.common name).isSome then tell " is a shell keyword" name
  else
    match s.aliases.lookup name with
    | some value =>
      tell (" is an alias for " ++ value) ("alias " ++ name ++ "=" ++ inQuotes value)
    | none =>
      if name.toList.contains '/' then
        match ← ask (.status name true) with
        | .ok _ => tell (" is " ++ name) name
        | .error _ => missing
      else
        let isTracked := other.isNone && (s.tracked.lookup name).isSome
        match ← Lookup.meaning true false other name with
        | .function _ => tell " is a shell function" name
        | .own =>
          tell (" is a " ++ (if specialCommands.contains name then "special " else "") ++
            "shell builtin") name
        | .program paths =>
          let path := paths.headD name
          tell ((if isTracked then " is a tracked alias for " else " is ") ++ path) path
        | .unknown => missing

/-- What each of these names stands for. -/
def describeAll : List String → Act Nat
  | [] => return 0
  | name :: names => do
    let status ← describe true none name
    return status ||| (← describeAll names)

def type : Own :=
  describeAll

/-- What `command` does that is not asked to run one. -/
def command : Own := .withOptions "pvV" "" fun g => do
  let asked := g.letters.filter fun c => c != 'p'
  match g.operands with
  | [] => return 0
  | name :: _ =>
    if asked.isEmpty then return 0
    else
      describe (asked.contains 'V')
        (if g.has 'p' then some defaultSearchPath else none) name

end Ensemble.Shell.Builtin
