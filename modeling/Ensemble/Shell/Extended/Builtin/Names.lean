import Ensemble.Shell.Builtin.Names
import Ensemble.Shell.Extended.Builtin.Basic
import Ensemble.Shell.Extended.Listing

/-!
# Ensemble.Shell.Extended.Builtin.Names

Commands on the **names of commands**: aliases, where programs have been found, what a name stands for, and
which commands of the shell's own can be found.
-/

namespace Ensemble.Shell.Extended.Builtin

/-! ### Aliases -/

def aliasLine (name value : String) : String :=
  "alias " ++ name ++ "=" ++ Quoting.single value ++ "\n"

/-- Can this be the name of an alias? -/
def isAliasName (name : String) : Bool :=
  name != "" && !(name.toList.any fun c =>
    [' ', '\t', '\n', '/', '$', '\x60', '=', '"', '\x27', '\x5c', '(', ')', '<', '>', '&', '|', ';'].contains c)

def makeAlias : Own := withOptions "p" "" fun g => do
  if g.operands.isEmpty || g.has 'p' then
    let all := (← get).aliases.mergeSort fun a b => decide (a.1 ≤ b.1)
    say (String.join (all.map fun (name, value) => aliasLine name value))
  eachOf g.operands fun a => do
    match Shell.Builtin.aliasAndValue a with
    | (name, some value) => do
      if !isAliasName name then
        complainAt ("\x60" ++ name ++ "': invalid alias name")
        return false
      Shell.Builtin.setAlias name value
      return true
    | (name, none) =>
      match (← get).aliases.lookup name with
      | some value => do
        say (aliasLine name value)
        return true
      | none => do
        complainAt (name ++ ": not found")
        return false

def unalias : Own := withOptions "a" "" fun g => do
  if g.has 'a' then
    modify ({ · with aliases := [] })
    return 0
  if g.operands.isEmpty then showUsage
  eachOf g.operands fun name => do
    let s ← get
    if (s.aliases.lookup name).isNone then
      complainAt (name ++ ": not found")
      return false
    set { s with aliases := s.aliases.filter (·.1 != name) }
    return true

/-! ### Programs -/

/-- Keep in mind where a program is. -/
def remember (name path : String) : Act Unit := do
  Lookup.track name path
  modify fun s => { s with hits := (name, 0) :: s.hits.filter (·.1 != name) }

def hash : Own := withOptions "lrdt" "p" fun g => do
  if g.has 'r' then modify ({ · with tracked := [], hits := [] })
  let s ← get
  match g.value? 'p' with
  | some path => do
    g.operands.forM (remember · path)
    return 0
  | none => pure ()
  if g.operands.isEmpty then
    if g.has 'r' then return 0
    if s.tracked.isEmpty then
      say "hash: hash table empty\n"
      return 0
    let place (name : String) : Nat := Elements.bucketOf name % 256
    let all := s.tracked.mergeSort fun a b => decide (place a.1 ≤ place b.1)
    if g.has 'l' then
      say (String.join (all.map fun (name, path, _) => "builtin hash -p " ++ path ++ " " ++ name ++ "\n"))
    else
      say ("hits\tcommand\n" ++ String.join (all.map fun (name, path, _) =>
        let n := toString ((s.hits.lookup name).getD 0)
        .ofList (List.replicate (4 - n.length) ' ') ++ n ++ "\t" ++ path ++ "\n"))
    return 0
  eachOf g.operands fun name => do
    let missing : Act Bool := do
      complainAt (name ++ ": not found")
      return false
    if g.has 'd' then
      if ((← get).tracked.lookup name).isNone then missing
      else do
        Lookup.forget name
        return true
    else if g.has 't' then
      match (← get).tracked.lookup name with
      | some (path, _) => do
        say ((if 1 < g.operands.length then name ++ "\t" else "") ++ path ++ "\n")
        return true
      | none => missing
    else if (Lookup.inside? (← get) true name).isSome then return true
    else
      match ← Lookup.search .notFound (Lookup.candidates ((← get).value? "PATH") name) with
      | .ok (path :: _) => do
        remember name path
        return true
      | _ => missing

/-! ### Meanings -/

/-- What a name stands for. -/
inductive Sense
  | shorthand (text : String)
  | keyword
  | function (body : Command)
  | own
  /-- A program, which has been found before. -/
  | known (path : String)
  | program (path : String)

/-- All programs of a name on a path. -/
def programs (search : Option String) (name : String) : Act (List String) := do
  let paths := if name.toList.contains '/' then [name] else Lookup.candidates search name
  let found ← paths.filterM fun path => do
    match ← ask (.status path true) with
    | .ok s => return s.kind = .file && (s.mode &&& 0o111) != 0
    | .error _ => return false
  return found

/-- What a name stands for, in the order in which it is looked up. -/
def senses (functions : Bool) (search : Option String) (name : String) : Act (List Sense) := do
  let s ← get
  let shorthand :=
    if s.toggles.contains "expand_aliases" then (s.aliases.lookup name).map Sense.shorthand else none
  let keyword := (Keyword.ofText? Keyword.all name).map fun _ => Sense.keyword
  let function := if functions then (s.functions.lookup name).map Sense.function else none
  let own := if s.dialect.isOwn name && !s.disabled.contains name then some Sense.own else none
  let known := if search.isNone then (s.tracked.lookup name).map fun (path, _) => Sense.known path else none
  let found ← programs (search <|> s.value? "PATH") name
  return shorthand.toList ++ keyword.toList ++ function.toList ++ own.toList ++ known.toList ++
    found.map .program

/-- The word for what a name stands for. -/
def Sense.word : Sense → String
  | .shorthand _ => "alias"
  | .keyword => "keyword"
  | .function _ => "function"
  | .own => "builtin"
  | .known _ | .program _ => "file"

/-- What a name stands for, in a sentence. -/
def Sense.sentence (name : String) : Sense → String
  | .shorthand text => name ++ " is aliased to \x60" ++ text ++ "'\n"
  | .keyword => name ++ " is a shell keyword\n"
  | .function body => name ++ " is a function\n" ++ Listing.function name body
  | .own => name ++ " is a shell builtin\n"
  | .known path => name ++ " is hashed (" ++ path ++ ")\n"
  | .program path => name ++ " is " ++ path ++ "\n"

/-- What a name stands for, as it could be written. -/
def Sense.brief (name : String) : Sense → String
  | .shorthand text => aliasLine name text
  | .keyword | .function _ | .own => name ++ "\n"
  | .known path | .program path => path ++ "\n"

/-- The path that a sense has. -/
def Sense.path? : Sense → Option String
  | .known path | .program path => some path
  | _ => none

def type : Own := withOptions "afptP" "" fun g => do
  eachOf g.operands fun name => do
    let all ← senses (!g.has 'f') none name
    let all := if g.has 'P' then all.filter (·.path?.isSome) else all
    let all := if g.has 'a' then all.filter (fun s => match s with | .known _ => false | _ => true) else all
    let shown := if g.has 'a' then all else all.take 1
    if shown.isEmpty then
      if !g.has 't' && !g.has 'p' && !g.has 'P' then complainAt (name ++ ": not found")
      return false
    for s in shown do
      if g.has 't' then say (s.word ++ "\n")
      else if g.has 'p' || g.has 'P' then (s.path?).forM fun path => say (path ++ "\n")
      else say (s.sentence name)
    return true

/-- What `command` tells of names that it does not run. -/
def describe (g : Shell.Given) : Act Nat := do
  let search := if g.has 'p' then some "/bin:/usr/bin" else none
  let found ← g.operands.mapM fun name => do
    match (← senses true search name).head? with
    | some s => do
      say (if g.has 'V' then s.sentence name else s.brief name)
      return true
    | none => do
      if g.has 'V' then complainAt (name ++ ": not found")
      return false
  return if found.any id then 0 else 1

/-- Let commands of the shell's own be found, or not. -/
def enable : Own := withOptions "adnps" "f" fun g => do
  let s ← get
  if g.operands.isEmpty then
    let names := extendedCommands.filter fun name =>
      g.has 'a' || s.disabled.contains name == g.has 'n'
    for name in names do
      say ("enable " ++ (if s.disabled.contains name then "-n " else "") ++ name ++ "\n")
    return 0
  eachOf g.operands fun name => do
    if !extendedCommands.contains name then
      complainAt (name ++ ": not a shell builtin")
      return false
    modify fun s =>
      let others := s.disabled.filter (· != name)
      { s with disabled := if g.has 'n' then name :: others else others }
    return true

/-- Tell where the function that runs was called. -/
def caller : Own := withOptions "" "" fun g => do
  let s ← get
  let bottom := if s.isArgument then "NULL" else s.name
  let sources := s.called.map (·.source) ++ [bottom]
  match g.operands with
  | [] =>
    match s.called with
    | [] => return 1
    | c :: _ => do
      say (toString c.line ++ " " ++ sources.getD 1 bottom ++ "\n")
      return 0
  | a :: _ =>
    match a.toNat? with
    | none => misuse (a ++ ": invalid number")
    | some n =>
      match s.called[n]?, (s.called.map (·.name) ++ if s.isArgument then [] else ["main"])[n + 1]? with
      | some c, some name => do
        say (toString c.line ++ " " ++ name ++ " " ++ sources.getD (n + 1) bottom ++ "\n")
        return 0
      | _, _ => return 1

/-- Commands that need a terminal, or that have nothing to tell. -/
def nothing (status : Nat) (told : Option String) : Own := fun _ => do
  told.forM complainAt
  return status

end Ensemble.Shell.Extended.Builtin
