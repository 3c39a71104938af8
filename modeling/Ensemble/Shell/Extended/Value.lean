import Ensemble.Shell.Extended.Arithmetic
import Ensemble.Shell.Extended.Listing
import Ensemble.Shell.Extended.Quoting
import Ensemble.Shell.State

/-!
# Ensemble.Shell.Extended.Value

**Values of the extended dialect**: places in rows of values, values under keys, variables whose values
come from the shell itself (`refresh`), and assignments that look at what kind of variable it is.
-/

namespace Ensemble.Shell.Extended

/-! ### Values that come from the shell -/

/-- The number that follows in a row of random ones. -/
def nextSeed (seed : Nat) : Nat :=
  let last : Int := if seed = 0 then 123459876 else seed
  let n := 16807 * (last % 127773) - 2836 * (last / 127773)
  (if n < 0 then n + 2147483647 else n).toNat

/-- The random number of 15 bits that a seed stands for. -/
def randomOf (seed : Nat) : Nat :=
  ((seed / 65536) ^^^ (seed % 65536)) % 32768

/-- The names of variables whose values come from the shell. -/
def dynamicNames : List String :=
  ["LINENO", "SECONDS", "RANDOM", "SRANDOM", "EPOCHSECONDS", "EPOCHREALTIME", "BASHPID", "FUNCNAME",
    "BASH_SOURCE", "BASH_LINENO", "PIPESTATUS", "BASH_SUBSHELL", "GROUPS", "DIRSTACK", "BASH_COMMAND",
    "SHELLOPTS", "BASHOPTS", "BASH_ALIASES", "BASH_CMDS", "BASH_ARGV0", "HISTCMD", "COMP_WORDBREAKS"]

/-- Those of them whose values are found out before variables are listed. -/
def listedNames : List String :=
  ["SHELLOPTS", "BASHOPTS", "BASH_LINENO", "BASH_SOURCE", "FUNCNAME", "PIPESTATUS", "BASH_ALIASES",
    "BASH_CMDS"]

/-- The characters between which a word to be completed stands. -/
def wordBreaks : String :=
  " \t\n\"'@><=;|&(:"

def setRow (name : String) (values : List String) : Act Unit :=
  modify fun s =>
    let items := values.zipIdx.map fun (v, i) => (i, v)
    let old := (s.declared? name).getD {}
    s.setVariable name (some (old.withElements (.row items)))

def setText (name value : String) : Act Unit :=
  modify (·.setValue false name value)

def setKeys (name : String) (items : List (String × String)) : Act Unit :=
  modify fun s =>
    let items := items.foldl (fun found (k, v) => Elements.putKey k v found) []
    let old := (s.declared? name).getD {}
    s.setVariable name (some (old.withElements (.keyed items)))

/-- Give a variable the value that it has now. -/
def refresh (name : String) : Act Unit := do
  if !dynamicNames.contains name then return ()
  let s ← get
  if (s.declared? name).isNone && name != "PIPESTATUS" then return ()
  match name with
  | "LINENO" => setText name (toString s.line)
  | "SECONDS" => setText name (toString (((← ask .clock) - s.countedFrom) / 1000000))
  | "RANDOM" | "SRANDOM" => do
    let seed := nextSeed s.seed
    set { s with seed }
    setText name (toString (randomOf seed))
  | "EPOCHSECONDS" => setText name (toString ((← ask .clock) / 1000000))
  | "EPOCHREALTIME" => do
    let now := (← ask .clock).toNat
    let part := toString (now % 1000000)
    setText name (toString (now / 1000000) ++ "." ++ .ofList (List.replicate (6 - part.length) '0') ++ part)
  | "BASHPID" => setText name (toString (← ask .self))
  | "FUNCNAME" =>
    if s.calls = 0 then modify (·.setVariable name (some { elements := some (.row []), isBare := true }))
    else setRow name (s.called.map (·.name) ++ if s.isArgument then [] else ["main"])
  | "BASH_SOURCE" =>
    let base := if s.isArgument then [] else [s.name]
    setRow name (s.called.map (·.source) ++ base)
  | "BASH_LINENO" =>
    setRow name (s.called.map (fun c => toString c.line) ++ if s.isArgument then [] else ["0"])
  | "PIPESTATUS" =>
    setRow name ((if s.pipeStatuses.isEmpty then [s.status] else s.pipeStatuses).map toString)
  | "BASH_SUBSHELL" => setText name (toString s.subshells)
  | "DIRSTACK" => setRow name (s.path :: s.directories)
  | "BASH_COMMAND" => setText name (Listing.command {} s.running)
  | "SHELLOPTS" =>
    setText name (":".intercalate ((Mode.extended.filter fun mode => mode.get s.modes).map (·.name)))
  | "BASHOPTS" => setText name (":".intercalate (s.toggles.mergeSort fun a b => decide (a ≤ b)))
  | "BASH_ALIASES" => setKeys name s.aliases
  | "BASH_CMDS" => setKeys name (s.tracked.map fun (n, path, _) => (n, path))
  | "BASH_ARGV0" => setText name s.name
  | "HISTCMD" => setText name "1"
  | "COMP_WORDBREAKS" => setText name wordBreaks
  | _ => setRow name ["0"]

/-! ### Places -/

/-- A name, and the text between brackets behind it. -/
def nameAndPlace (text : String) : String × Option String :=
  let cs := text.toList
  let name := cs.takeWhile isNameChar
  match cs.drop name.length with
  | '[' :: rest =>
    if rest.getLast? == some ']' && isName name then (.ofList name, some (.ofList rest.dropLast)) else (text, none)
  | _ => (text, none)

/-- Complain about a place that there cannot be. -/
def badPlace (told : String) : Act α :=
  drop (told ++ ": bad array subscript")

/-- Without the quotes around a key. -/
def bareKey (key : String) : String :=
  let cs := key.toList
  match cs.head?, cs.getLast? with
  | some a, some b =>
    if 2 ≤ cs.length && a == b && (a == '"' || a == '\x27') then .ofList (cs.drop 1).dropLast else key
  | _, _ => key

/-- The value at a place. `number` is the place as a number. -/
def elementAt (name key : String) (number : Act Int) : Act (Option String) := do
  refresh name
  let s ← get
  match s.declared? (s.target name) with
  | none => do
    let _ ← number
    return none
  | some v =>
    match v.elements with
    | some (.keyed items) => return items.lookup (bareKey key)
    | some (.row items) => do
      let n ← number
      match (Elements.row items).placeOf n with
      | some p => return items.lookup p
      | none => do
        complainAt (name ++ ": bad array subscript")
        return none
    | none => do
      let n ← number
      return if n = 0 || n = -1 then v.value else none

/-- Put a value at a place. -/
def putElement (name key : String) (number : Act Int) (value : String) : Act Unit := do
  let s ← get
  let name := s.target name
  let v := (s.declared? name).getD {}
  if v.readOnly then dropReadOnly name
  let value := v.kept value
  match v.elements with
  | some (.keyed items) =>
    modify (·.setVariable name (some (v.withElements (.keyed (Elements.putKey (bareKey key) value items)))))
  | found => do
    let n ← number
    let items :=
      match found, v.value with
      | some (.row items), _ => items
      | _, some value => [(0, value)]
      | _, none => []
    match (Elements.row items).placeOf n with
    | some p =>
      modify (·.setVariable name (some (v.withElements (.row (Elements.putAt p value items)))))
    | none => badPlace (name ++ "[" ++ key ++ "]")

/-! ### Arithmetic -/

/-- Complain about an expression and drop the line; what it is part of may be told, too. -/
def wrongExpression (label expression told text : String) : Act α := do
  let lead := String.ofList (expression.toList.dropWhile Arithmetic.isBlank)
  drop (label ++ lead ++ ": " ++ told ++ " (error token is \"" ++ text ++ "\")")

/-- The values of names in expressions. -/
def names (label : String) (evaluate : String → Act Int64) : Arithmetic.Names Act where
  get name place := do
    let found ←
      match place with
      | some key => elementAt name key (return (← evaluate key).toInt)
      | none => do
        refresh name
        let s ← get
        pure (s.value? name)
    match found with
    | some value => return value
    | none => do
      if (← get).modes.strictParameters then
        complainAt (name ++ ": unbound variable")
        setStatus 1
        throw .exit
      return ""
  put name place n := do
    let value := toString n.toInt
    match place with
    | some key => putElement name key (return (← evaluate key).toInt) value
    | none => do
      if name = "RANDOM" then modify ({ · with seed := n.toInt.toNat })
      assign name value
  fail expression told text := wrongExpression label expression told text

/-- The value of an expression. So many expressions may be evaluated inside of one another. -/
def evaluateIn (label : String) : Nat → String → Act Int64
  | 0, text => wrongExpression label text "expression recursion level exceeded" text
  | fuel + 1, text => Arithmetic.eval (names label (evaluateIn label fuel)) Arithmetic.nameDepth text

def evaluate (label text : String) : Act Int64 :=
  evaluateIn label 100 text

/-! ### Assignments -/

/-- A value as a variable takes it, given what stands before it. -/
def taken (v : Variable) (before : Option String) (appends : Bool) (value : String) : Act String := do
  if v.isWhole then
    let n ← evaluate "" value
    if appends then
      let old ← evaluate "" (before.getD "")
      return toString (old + n).toInt
    return toString n.toInt
  else return if appends then before.getD "" ++ value else value

/-- Assign to a name, or to a place behind it. -/
def assignTo (name : String) (place : Option String) (appends : Bool) (value : String) : Act Unit := do
  let s ← get
  let (name, place) :=
    match place with
    | none => nameAndPlace (s.target name)
    | some p => (s.target name, some p)
  let v := (s.declared? name).getD {}
  if v.readOnly then dropReadOnly name
  if v.refers && v.value.isNone && place.isNone then
    if !isName ((nameAndPlace value).1).toList then drop ("\x60" ++ value ++ "': not a valid identifier")
    modify (·.setVariable name (some { v with value := some value }))
    return ()
  match place with
  | none => do
    let value ← taken v v.value appends value
    match name with
    | "RANDOM" => modify ({ · with seed := (value.toNat?).getD 0 })
    | "SECONDS" => do
      let now ← ask .clock
      modify ({ · with countedFrom := now - 1000000 * ((value.toNat?).getD 0 : Nat) })
    | _ => assign name value
  | some key => do
    let number : Act Int := return (← evaluate "" key).toInt
    let before ← if appends then elementAt name key number else pure none
    putElement name key number (← taken v before appends value)

/-- Values for many places: the place of each, if it is given, and whether the value is added to what is
there. -/
structure Item where
  place : Option String
  appends : Bool := false
  value : String

/-- Put items into a row, from a place on. -/
def putItems (name : String) : Nat → List Item → Act Unit
  | _, [] => return ()
  | next, item :: items => do
    match item.place with
    | none => do
      assignTo name (some (toString next)) item.appends item.value
      putItems name (next + 1) items
    | some key => do
      let n := (← evaluate "" key).toInt
      assignTo name (some key) item.appends item.value
      putItems name (n.toNat + 1) items

/-- Put items under keys. Without places, keys and values stand behind one another. -/
def putKeys (name : String) : List Item → Act Unit
  | [] => return ()
  | { place := some key, appends, value } :: items => do
    assignTo name (some key) appends value
    putKeys name items
  | { place := none, value := key, .. } :: { value, .. } :: items => do
    assignTo name (some key) false value
    putKeys name items
  | { place := none, value := key, .. } :: [] => assignTo name (some key) false ""

/-- Assign many values to a name. -/
def assignAll (name : String) (appends : Bool) (items : List Item) : Act Unit := do
  let s ← get
  let name := s.target name
  let v := (s.declared? name).getD {}
  if v.readOnly then dropReadOnly name
  match v.elements with
  | some (.keyed _) => do
    if !appends then modify (·.setVariable name (some (v.withElements (.keyed []))))
    putKeys name items
  | found => do
    let old : Elements :=
      match found, v.value with
      | some e, _ => e
      | none, some value => .row [(0, value)]
      | none, none => .row []
    let start := if appends then old else .row []
    modify (·.setVariable name (some (v.withElements start)))
    putItems name start.nextPlace items

end Ensemble.Shell.Extended
