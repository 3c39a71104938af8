import Ensemble.Shell.Builtin.Flow
import Ensemble.Shell.Expansion

/-!
# Ensemble.Shell.Builtin.Variables

Commands on **variables**: marking them, taking them away, making them local, and reading lines and
options into them.
-/

namespace Ensemble.Shell.Builtin

/-- Mark names, and assign to those that come with a value. -/
def mark (command : String) (on : Variable → Bool) (change : Variable → Variable) : Own :=
  .withOptions "p" "" fun g => do
    if g.operands.isEmpty || g.has 'p' then
      say (listVariables (command ++ " ") on (← get).bindings)
      return 0
    for a in g.operands do
      let (name, value) := nameAndValue a
      let s ← get
      match s.declared? name, value with
      | some v, none => set (s.setVariable name (some (change v)))
      | _, value => do
        checkName name
        assignWith change name value
    return 0

def unset : Own := .withOptions "vf" "" fun g => do
  for name in g.operands do
    if g.last? == some 'f' then
      modify fun s => { s with functions := s.functions.filter (·.1 != name) }
    else
      checkName name
      unsetVariable name
  return 0

/-- Make a name local to the command that runs, and assign to it if it comes with a value. -/
def makeLocal (change : Variable → Variable) (binding : String) : Act Unit := do
  if binding = "-" then keep (.modes (← get).modes)
  else
    let (name, value) := nameAndValue binding
    let old := (← get).declared? name
    match old, value with
    | some _, none => pure ()
    | _, value => do
      checkName name
      assignWith change name value
    keep (.variable name old)

/-- Make names local to the function that runs. -/
def local' : Own := fun args => do
  if (← get).calls = 0 then giveUp "not in a function"
  args.forM (makeLocal id)
  return 0

/-! ### Reading lines -/

/-- Read octets up to one that ends a line; is it ended? -/
def inputLine (fd : Nat) (stop : Char) : Nat → Act (String × Bool)
  | 0 => return ("", false)
  | fuel + 1 => do
    match ← ask (.readThrough fd stop 4096) with
    | .error _ | .ok "" => return ("", false)
    | .ok piece =>
      if piece.toList.getLast? == some stop then return (.ofList (piece.toList.dropLast), true)
      let (more, ended) ← inputLine fd stop fuel
      return (piece ++ more, ended)

/-- How many pieces a line is read in at most. -/
def linePieces : Nat := 1000000

/-- A line as cells, where a backslash protects what follows it; and whether it goes on. -/
def protectedCells : List Char → List Cell × Bool
  | ['\x5c'] => ([], true)
  | '\x5c' :: c :: cs =>
    let (cells, goesOn) := protectedCells cs
    (.char c true false :: cells, goesOn)
  | c :: cs =>
    let (cells, goesOn) := protectedCells cs
    (.char c false true :: cells, goesOn)
  | [] => ([], false)

/-- Read a line for `read`: is it ended? -/
def logicalLine (raw : Bool) : Nat → Act (List Cell × Bool)
  | 0 => return ([], false)
  | fuel + 1 => do
    let (line, ended) ← inputLine 0 '\n' linePieces
    let cs := line.toList.filter (· != '\x00')
    if raw then return (cs.map (.char · false true), ended)
    let (cells, goesOn) := protectedCells cs
    if goesOn && ended then
      let (more, ended) ← logicalLine raw fuel
      return (cells ++ more, ended)
    return (cells, ended)

/-- Is a cell a separator, and a white one? -/
def isSeparator (ifs : List Char) (c : Cell) : Bool :=
  Field.role ifs c != .part

def isWhiteSeparator (ifs : List Char) (c : Cell) : Bool :=
  Field.role ifs c == .white

/-- What is left for the last name: white separators at its end are left out, and one that ends the only
field. -/
def lastField (ifs : List Char) (cells : List Cell) : List Cell :=
  let isWhite := isWhiteSeparator ifs
  let trimmed := cells.reverse.dropWhile isWhite
  match trimmed with
  | c :: before =>
    let field := before.dropWhile isWhite
    if isSeparator ifs c && !field.any (isSeparator ifs) then field.reverse else trimmed.reverse
  | [] => []

/-- Deal a line out to so many names; the last one gets all that is left. -/
def deal (ifs : List Char) : Nat → List Cell → List (List Cell)
  | 0, _ => []
  | n + 1, cells =>
    let cells := cells.dropWhile (isWhiteSeparator ifs)
    if n = 0 then [lastField ifs cells]
    else
      let field := cells.takeWhile (!isSeparator ifs ·)
      let rest := (cells.drop field.length).dropWhile (isWhiteSeparator ifs)
      let rest :=
        match rest with
        | c :: more => if isSeparator ifs c then more else c :: more
        | [] => []
      field :: deal ifs n rest

def read : Own := .withOptions "r" "p" fun g => do
  let names := g.operands
  if names.isEmpty then giveUp "arg count"
  let (line, ended) ← logicalLine (g.has 'r') 1000000
  let fields := deal (Expansion.separators (← get)) names.length line
  for (name, field) in names.zip fields do
    checkName name
    assign name (.ofList (Field.text field))
  return if ended then 0 else 1

/-! ### Reading options -/

/-- What comes of looking for an option: where it is read on, what is assigned, whether one was found,
and what is told. -/
structure OptionFound where
  letter : Char
  index : Nat
  offset : Nat := 0
  argument : Option String
  found : Bool := true
  told : Option String := none

/-- Look for an option in words, from a word and a place in the word before it on. -/
def findOption (spec : List Char) (words : List String) (index offset : Nat) :
    OptionFound :=
  let quiet := spec.head? == some ':'
  let current := (if 1 < index then words[index - 2]? else none).getD ""
  let inside := if offset = 0 || current.length < offset then [] else current.toList.drop offset
  let word := words[index - 1]?
  let atEnd (index : Nat) : OptionFound := ⟨'?', index, 0, none, false, none⟩
  let ofLetters (index : Nat) (length : Nat) (c : Char) (cs : List Char) : OptionFound :=
    let offset := if cs.isEmpty then 0 else length - cs.length
    let place := spec.dropWhile (· != c)
    if c == ':' || place.isEmpty then
      ⟨'?', index, offset, if quiet then some c.toString else none, true,
        if quiet then none else some ("Illegal option -" ++ c.toString)⟩
    else if place[1]? == some ':' then
      match if cs.isEmpty then words[index - 1]? else some (.ofList cs) with
      | some value => ⟨c, if cs.isEmpty then index + 1 else index, 0, some value, true, none⟩
      | none =>
        if quiet then ⟨':', index, offset, some c.toString, true, none⟩
        else ⟨'?', index, offset, none, true, some ("No arg for -" ++ c.toString ++ " option")⟩
    else ⟨c, index, offset, some "", true, none⟩
  match inside with
  | c :: cs => ofLetters index current.length c cs
  | [] =>
    match word with
    | none => atEnd index
    | some w =>
      match w.toList with
      | ['-', '-'] => atEnd (index + 1)
      | '-' :: c :: cs => ofLetters (index + 1) w.length c cs
      | _ => atEnd index

def getopts : Own := fun args => do
  match args with
  | spec :: name :: rest => do
    let s ← get
    let words := if rest.isEmpty then s.positional else rest
    let (index, offset) :=
      if words.length + 1 < s.optionIndex then (1, 0) else (s.optionIndex, s.optionOffset)
    let o := findOption spec.toList words index offset
    match o.told with
    | some told => complain told
    | none => pure ()
    if o.found then
      match o.argument with
      | some a => assign "OPTARG" a
      | none => unsetVariable "OPTARG"
    modify fun s => s.setVariable "OPTIND" (some
      { (s.declared? "OPTIND").getD {} with value := some (toString o.index) })
    checkName name
    assign name o.letter.toString
    modify fun s => { s with optionIndex := o.index, optionOffset := o.offset }
    return if o.found then 0 else 1
  | _ => giveUp "Usage: getopts optstring var [arg...]"

end Ensemble.Shell.Builtin
