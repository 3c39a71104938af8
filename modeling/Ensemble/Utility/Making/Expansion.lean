import Ensemble.Utility.Making.Command
import Ensemble.Utility.Making.Places
import Ensemble.Utility.Making.Text

/-!
# Ensemble.Utility.Making.Expansion

**Expanding** texts: references to variables are replaced by their values, and calls of functions by
what they come to. Most functions get their arguments expanded; those that choose among them expand
only what they choose. One function reads a text as a makefile, so what does that is given.
-/

/-! ### Functions

**Functions of texts** in makefiles, and what is known of all functions: how many arguments each takes,
and whether they are expanded before it gets them.
-/

namespace Ensemble.Utility.Making

/-- What is known of a function. -/
structure FunctionKind where
  least : Nat
  /-- 0 is any number. -/
  most : Nat
  expands : Bool := true

/-- The functions. -/
def functions : List (String × FunctionKind) :=
  [("abspath", ⟨0, 1, true⟩), ("addprefix", ⟨2, 2, true⟩), ("addsuffix", ⟨2, 2, true⟩),
    ("basename", ⟨0, 1, true⟩), ("dir", ⟨0, 1, true⟩), ("notdir", ⟨0, 1, true⟩),
    ("subst", ⟨3, 3, true⟩), ("suffix", ⟨0, 1, true⟩), ("filter", ⟨2, 2, true⟩),
    ("filter-out", ⟨2, 2, true⟩), ("findstring", ⟨2, 2, true⟩), ("firstword", ⟨0, 1, true⟩),
    ("flavor", ⟨0, 1, true⟩), ("join", ⟨2, 2, true⟩), ("lastword", ⟨0, 1, true⟩),
    ("patsubst", ⟨3, 3, true⟩), ("realpath", ⟨0, 1, true⟩), ("shell", ⟨0, 1, true⟩),
    ("sort", ⟨0, 1, true⟩), ("strip", ⟨0, 1, true⟩), ("wildcard", ⟨0, 1, true⟩),
    ("word", ⟨2, 2, true⟩), ("wordlist", ⟨3, 3, true⟩), ("words", ⟨0, 1, true⟩),
    ("origin", ⟨0, 1, true⟩), ("foreach", ⟨3, 3, false⟩), ("call", ⟨1, 0, true⟩),
    ("info", ⟨0, 1, true⟩), ("error", ⟨0, 1, true⟩), ("warning", ⟨0, 1, true⟩),
    ("if", ⟨2, 3, false⟩), ("or", ⟨1, 0, false⟩), ("and", ⟨1, 0, false⟩),
    ("value", ⟨0, 1, true⟩), ("eval", ⟨0, 1, true⟩), ("file", ⟨1, 2, true⟩)]

/-- The function that a text begins with, and what is behind its name: a blank, or nothing. -/
def functionAt? (text : List Char) : Option (String × FunctionKind × List Char) :=
  let name := text.takeWhile fun c => c.isAlphanum || c == '-' || c == '_'
  let rest := text.drop name.length
  if (rest.head?.map isSpace).getD true then
    (functions.lookup (.ofList name)).map fun kind => (.ofList name, kind, rest.dropWhile isSpace)
  else none

/-- Words one behind the other, pairwise. -/
def joined : List String → List String → List String
  | a :: as, b :: bs => (a ++ b) :: joined as bs
  | as, [] => as
  | [], bs => bs

/-- A number in a text, with blanks around it. -/
def number? (text : String) : Option Nat :=
  let digits := trimmed text.toList
  if !digits.isEmpty && digits.all Char.isDigit then (String.ofList digits).toNat? else none

/-- A function that needs nothing but its arguments. -/
def textFunction (name : String) (args : List String) : Option String :=
  match name, args with
  | "subst", [a, b, t] => some (substituted a b t)
  | "patsubst", [a, b, t] => some (exchanged (.ofString a) (.ofString b) t)
  | "strip", [t] => some (unwords (words t))
  | "findstring", [a, t] => some (if a = "" || 1 < (t.splitOn a).length then a else "")
  | "filter", [p, t] =>
    let patterns := (words p).map Pattern.ofString
    some (unwords ((words t).filter fun w => patterns.any (·.fits w)))
  | "filter-out", [p, t] =>
    let patterns := (words p).map Pattern.ofString
    some (unwords ((words t).filter fun w => !patterns.any (·.fits w)))
  | "sort", [t] => some (unwords (((words t).mergeSort fun a b => decide (a ≤ b)).eraseDups))
  | "words", [t] => some (toString (words t).length)
  | "firstword", [t] => some ((words t).headD "")
  | "lastword", [t] => some (((words t).getLast?).getD "")
  | "dir", [t] => some (unwords ((words t).map directoryPart))
  | "notdir", [t] => some (unwords ((words t).map fun w => (pathSplit w).2))
  | "suffix", [t] => some (unwords (((words t).map fun w => (suffixSplit w).2).filter (· != "")))
  | "basename", [t] => some (unwords ((words t).map fun w => (suffixSplit w).1))
  | "addsuffix", [s, t] => some (unwords ((words t).map (· ++ s)))
  | "addprefix", [s, t] => some (unwords ((words t).map (s ++ ·)))
  | "join", [a, b] => some (unwords (joined (words a) (words b)))
  | _, _ => none

end Ensemble.Utility.Making

/-! ### Expanding -/

namespace Ensemble.Utility.Making

/-- Expands a text. -/
abbrev Expand := List Char → Making String

/-- Reads a text as a part of a makefile. -/
abbrev Evaluate := String → Making Unit

/-! ### Scopes -/

/-- Do something, and have scopes and places again as they were before. -/
def within (change : Book → Book) (act : Making α) : Making α := do
  let before ← get
  modify change
  let a ← act
  modify fun b => { b with
    scopes := before.scopes, target := before.target, spot := before.spot, valueSpot := before.valueSpot
    expanding := before.expanding, called := before.called, arguments := before.arguments }
  return a

/-- A variable that has its value for the time being. -/
def automaticVariable (value : String) : Variable :=
  { value, recursive := false, origin := .automatic }

/-! ### Variables -/

/-- The value of a variable that comes behind those of the scopes around. -/
def appendedValue (go : Expand) (name : String) : Nat → Variable → Bool → List Book.Layer → Making String
  | 0, v, _, _ => return v.value
  | fuel + 1, v, isOther, layers => do
    let outer ←
      if v.appends then
        match Book.seek name isOther layers with
        | none => pure ""
        | some (w, isOther, layers) => appendedValue go name fuel w isOther layers
      else pure ""
    let own ← if v.recursive then go v.value.toList else pure v.value
    return if outer = "" then own else outer ++ " " ++ own

/-- The value of a variable that is expanded when it is asked for. -/
def recursiveValue (name : String) (v : Variable) (value : Making String) : Making String := do
  let b ← get
  let valueSpot := v.spot.orElse fun _ => b.valueSpot
  if b.expanding.contains name && !b.called.contains name then
    refuseAt (valueSpot.orElse fun _ => b.spot)
      ("Recursive variable '" ++ name ++ "' references itself (eventually)")
  set { b with expanding := name :: b.expanding, valueSpot, spot := b.spot.orElse fun _ => v.spot }
  let text ← value
  modify fun now => { now with expanding := b.expanding, valueSpot := b.valueSpot, spot := b.spot }
  return text

/-- The value of a variable. -/
def valueOf (go : Expand) (name : String) (v : Variable) : Making String :=
  if v.recursive then recursiveValue name v (go v.value.toList) else return v.value

/-- The value of a name. -/
def valueOfName (go : Expand) (name : String) : Making String := do
  let b ← get
  if name = ".VARIABLES" then return unwords (Mixing.arranged Mixing.numberOfVariable (b.vars.map (·.1)))
  match Book.seek name false b.layers with
  | none => do
    if b.manner.warnsUndefined then tellAt b.spot ("warning: undefined variable '" ++ name ++ "'")
    return ""
  | some (v, isOther, layers) =>
    if v.value = "" && !v.appends then return ""
    if v.appends && v.recursive then
      recursiveValue name v (appendedValue go name 100 v isOther layers)
    else valueOf go name v

/-! ### Functions -/

/-- A number that a function is given. -/
def numberGiven (which name text : String) : Making Nat := do
  match number? text with
  | some n => return n
  | none => refuseValue ("non-numeric " ++ which ++ " argument to '" ++ name ++ "' function: '" ++ text ++ "'")

/-- Write a file, or read one. -/
def fileFunction (args : List String) : Making String := do
  let place := (args.headD "").toList
  let named (cs : List Char) : Making String := do
    let name := cs.dropWhile isSpace
    if name.isEmpty then refuseValue "file: missing filename"
    return .ofList name
  match place with
  | '>' :: cs => do
    let (append, cs) := match cs with | '>' :: cs => (true, cs) | cs => (false, cs)
    let name ← named cs
    match ← ask (.openFile name { writes := true, create := true, truncate := !append, append }) with
    | .error e => refuse ("open: " ++ name ++ ": " ++ e.message)
    | .ok fd => do
      match args[1]? with
      | none => pure ()
      | some text =>
        let text := if text.toList.getLast? == some '\n' then text else text ++ "\n"
        match ← writeTo fd (text.length + 1) text with
        | none => pure ()
        | some e => refuse ("write: " ++ name ++ ": " ++ e.message)
      let _ ← ask (.close fd)
      return ""
  | '<' :: cs => do
    let name ← named cs
    if args.length != 1 then refuseValue "file: too many arguments"
    match ← contentOf name with
    | .notOpened e =>
      if e == .notFound then return ""
      refuse ("open: " ++ name ++ ": " ++ e.message)
    | .notRead e => refuse ("read: " ++ name ++ ": " ++ e.message)
    | .text text =>
      match text.toList.reverse with
      | '\n' :: '\x0d' :: cs => return .ofList cs.reverse
      | '\n' :: cs => return .ofList cs.reverse
      | cs => return .ofList cs.reverse
  | cs => refuseValue ("file: invalid file operation: " ++ .ofList cs)

/-- What a command writes, on one line; how it ended is kept in a variable. -/
def shellFunction (go : Expand) (command : String) : Making String := do
  let shell ← go "$(SHELL)".toList
  let flags ← go "$(.SHELLFLAGS)".toList
  match commandWords shell flags false command.toList with
  | [] => return ""
  | args => do
    let (text, ending) ← commandOutput args (← getThe Desk).bindings
    let status : Variable :=
      { value := toString ending.status, recursive := false, origin := .override }
    modify fun b => b.withVariable ".SHELLSTATUS" status
    return onOneLine text

/-- Call a function with arguments, which are expanded if it wants that. -/
def callBuiltin (evaluate : Evaluate) (go : Expand) (name : String) (args : List String) :
    Making String := do
  let argument (n : Nat) : String := (args[n]?).getD ""
  let chosen (n : Nat) : Making String := go (argument n).toList
  let isMet (n : Nat) : Making String := go (trimmed (argument n).toList)
  match name with
  | "if" => do
    if (← isMet 0) != "" then chosen 1 else chosen 2
  | "or" => do
    for n in List.range args.length do
      let value ← isMet n
      if value != "" then return value
    return ""
  | "and" => do
    let mut value := ""
    for n in List.range args.length do
      value ← isMet n
      if value = "" then return ""
    return value
  | "foreach" => do
    let (name, _) := firstWord (← chosen 0).toList
    let list ← chosen 1
    let scopes := (← get).scopes
    let mut found : List String := []
    for w in words list do
      let value ← within
        (fun b => { b with scopes := [(name, automaticVariable w)] :: scopes }) (chosen 2)
      found := value :: found
    return unwords found.reverse
  | "value" => return (((← get).lookup? (argument 0)).map (·.value)).getD ""
  | "origin" => return (((← get).lookup? (argument 0)).map (·.origin.words)).getD "undefined"
  | "flavor" =>
    return (((← get).lookup? (argument 0)).map fun v =>
      if v.recursive then "recursive" else "simple").getD "undefined"
  | "shell" => shellFunction go (argument 0)
  | "eval" => do
    evaluate (argument 0)
    return ""
  | "file" => fileFunction args
  | "wildcard" => do
    let mut found : List String := []
    for p in namesIn (argument 0).toList do
      found := found ++ (← foundPaths (← atHome p))
    return unwords found
  | "realpath" => do
    let mut found : List String := []
    for p in words (argument 0) do
      match ← ask (.realPath p) with
      | .ok path => found := found ++ [path]
      | .error _ => pure ()
    return unwords found
  | "abspath" => do
    let here ← ask .directory
    return unwords ((words (argument 0)).map (absolutePath here))
  | "word" => do
    let n ← numberGiven "first" "word" (argument 0)
    if n = 0 then refuseValue "first argument to 'word' function must be greater than 0"
    return ((words (argument 1))[n - 1]?).getD ""
  | "wordlist" => do
    let first ← numberGiven "first" "wordlist" (argument 0)
    let last ← numberGiven "second" "wordlist" (argument 1)
    if first = 0 then
      refuseValue ("invalid first argument to 'wordlist' function: '" ++ toString first ++ "'")
    return .ofList (wordRange first (last + 1 - first) (argument 2).toList)
  | "info" => do
    sayLine (argument 0)
    flush
    return ""
  | "warning" => do
    tellAt (← get).spot (argument 0)
    return ""
  | "error" => refuse (argument 0)
  | name => return (textFunction name args).getD ""

/-- Call a function, if it gets enough arguments. -/
def callKind (evaluate : Evaluate) (go : Expand) (name : String) (kind : FunctionKind)
    (args : List String) : Making String := do
  if args.length < kind.least then
    refuseValue ("insufficient number of arguments (" ++ toString args.length ++ ") to function '" ++ name ++ "'")
  if args.isEmpty then return ""
  callBuiltin evaluate go name args

/-- Expand a variable with numbered arguments, or call a function by its name. -/
def callNamed (evaluate : Evaluate) (go : Expand) (args : List String) : Making String := do
  let (name, _) := firstWord (args.headD "").toList
  if name = "" then return ""
  match functionAt? name.toList with
  | some (_, kind, _) => callKind evaluate go name kind (args.drop 1)
  | none => do
    let b ← get
    match b.lookup? name with
    | none => do
      if b.manner.warnsUndefined then tellAt b.spot ("warning: undefined variable '" ++ name ++ "'")
      return ""
    | some v =>
      if v.value = "" then return ""
      let values := name :: args.drop 1 ++ List.replicate (b.arguments - args.length) ""
      let scope := values.zipIdx.map fun (value, n) => (toString n, automaticVariable value)
      let valueSpot := b.valueSpot
      within (fun b => { b with
          scopes := scope :: b.scopes, called := name :: b.called, arguments := values.length, valueSpot })
        (valueOfName go name)

/-- Call a function with a text for its arguments. -/
def callFunction (evaluate : Evaluate) (go : Expand) (opening : Char) (name : String)
    (kind : FunctionKind) (text : List Char) : Making String := do
  let most := if kind.most = 0 then text.length else kind.most - 1
  let args := argumentsFrom opening most 0 text []
  let args ← if kind.expands then args.mapM go else pure (args.map String.ofList)
  if name = "call" then callNamed evaluate go args else callKind evaluate go name kind args

/-! ### References -/

/-- The value of a reference whose inside has been expanded. -/
def referenceValue (go : Expand) (inside : List Char) : Making String := do
  let (name, rest) := inside.span (· != ':')
  let (part, new) := (rest.drop 1).span (· != '=')
  if rest.isEmpty || new.isEmpty then valueOfName go (.ofList inside)
  else do
    let value ← valueOfName go (.ofList name)
    if value = "" then return ""
    match Pattern.ofChars part with
    | .word part => return exchanged (.around [] part) (.around [] (new.drop 1)) value
    | p => return exchanged p (.ofChars (new.drop 1)) value

/-- Expand a text. -/
def expandFrom (evaluate : Evaluate) : Nat → Expand
  | 0, _ => refuse "virtual memory exhausted"
  | fuel + 1, text => do
    let before := text.takeWhile (· != '$')
    let out := String.ofList before
    match text.drop before.length with
    | '$' :: c :: cs => do
      let go := expandFrom evaluate fuel
      if c == '$' then return out ++ "$" ++ (← go cs)
      if c != '(' && c != '\x7b' then
        let value ← valueOfName go c.toString
        return out ++ value ++ (← go cs)
      match functionAt? cs with
      | some (name, kind, rest) =>
        match upToClosing c 0 rest [] with
        | none =>
          refuseValue ("unterminated call to function '" ++ name ++ "': missing '" ++
            (closingOf c).toString ++ "'")
        | some (inside, rest) => do
          let value ← callFunction evaluate go c name kind inside
          return out ++ value ++ (← go rest)
      | none => do
        let short := cs.takeWhile (· != closingOf c)
        if short.length = cs.length then refuseValue "unterminated variable reference"
        match if short.contains '$' then upToClosing c 0 cs [] else none with
        | some (inside, rest) => do
          let value ← referenceValue go (← go inside).toList
          return out ++ value ++ (← go rest)
        | none => do
          let value ← referenceValue go short
          return out ++ value ++ (← go (cs.drop (short.length + 1)))
    | '$' :: [] => return out ++ "$"
    | _ => return out

/-- How deep references may stand in one another. -/
def expansionDepth : Nat := 20000

end Ensemble.Utility.Making
