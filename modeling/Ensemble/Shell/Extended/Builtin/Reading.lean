import Ensemble.Shell.Builtin.Variables
import Ensemble.Shell.Extended.Builtin.Basic

/-!
# Ensemble.Shell.Extended.Builtin.Reading

Commands that **read** lines into variables and options off arguments.
-/

namespace Ensemble.Shell.Extended.Builtin

/-! ### Lines -/

/-- Read so many octets, but not beyond one that ends a line; is there enough, or is the line ended? -/
def someInput (fd : Nat) (stop : Option Char) : Nat → Nat → Act (String × Bool)
  | 0, _ => return ("", false)
  | _, 0 => return ("", true)
  | fuel + 1, count => do
    let got ← match stop with
      | some stop => ask (.readThrough fd stop count)
      | none => ask (.read fd count)
    match got with
    | .error _ | .ok "" => return ("", false)
    | .ok piece =>
      match stop, piece.toList.getLast? with
      | some stop, some c =>
        if c == stop then return (.ofList piece.toList.dropLast, true)
      | _, _ => pure ()
      let (more, enough) ← someInput fd stop fuel (count - piece.length)
      return (piece ++ more, enough)

/-- Read a line of cells; is it ended? A backslash can protect what follows it, and the end of a line. -/
def lineCells (raw : Bool) (next : Act (String × Bool)) : Nat → Act (List Cell × Bool)
  | 0 => return ([], false)
  | fuel + 1 => do
    let (line, ended) ← next
    let cs := line.toList.filter (· != '\x00')
    if raw then return (cs.map (.char · false true), ended)
    let (cells, goesOn) := Builtin.protectedCells cs
    if goesOn && ended then
      let (more, ended) ← lineCells raw next fuel
      return (cells ++ more, ended)
    return (cells, ended)

/-- A number that an option has, or a complaint. -/
def optionNumber (g : Shell.Given) (c : Char) (told : String) : Act (Option Nat) := do
  match g.value? c with
  | none => return none
  | some text =>
    match number? text with
    | some n => if 0 ≤ n then return some n.toNat
    | none => pure ()
    complainAt (text ++ ": " ++ told)
    fail 1

/-- The descriptor that is read, if there is one. -/
def inputDescriptor (g : Shell.Given) : Act Nat := do
  match g.value? 'u' with
  | none => return 0
  | some text =>
    match text.toNat? with
    | none => do
      complainAt (text ++ ": invalid file descriptor specification")
      fail 1
    | some fd =>
      match ← ask (.descriptorStatus fd) with
      | .ok _ => return fd
      | .error e => do
        complainAt (text ++ ": invalid file descriptor: " ++ e.message)
        fail 1

/-- Is this how long something may take? -/
def isDuration (text : String) : Bool :=
  let cs := text.toList
  let whole := cs.takeWhile Char.isDigit
  match cs.drop whole.length with
  | [] => !whole.isEmpty
  | '.' :: part => part.all Char.isDigit
  | _ => false

def read : Own := withOptions "ers" "adinNptu" fun g => do
  match g.value? 't' with
  | some text =>
    if !isDuration text then
      complainAt (text ++ ": invalid timeout specification")
      return 1
  | none => pure ()
  let exactly ← optionNumber g 'N' "invalid number"
  let most ← optionNumber g 'n' "invalid number"
  let fd ← inputDescriptor g
  match g.operands, g.value? 'a' with
  | _, some name | name :: _, none =>
    if !isTarget name then
      notName name
      return 1
  | [], none => pure ()
  let raw := g.has 'r'
  let stop := match g.value? 'd' with | some d => d.toList.headD '\x00' | none => '\n'
  let next : Act (String × Bool) :=
    match exactly, most with
    | some n, _ => someInput fd none (n + 1) n
    | none, some n => someInput fd (some stop) (n + 1) n
    | none, none => Builtin.inputLine fd stop Builtin.linePieces
  let (line, ended) ← lineCells (raw || exactly.isSome) next Builtin.linePieces
  let ifs := Expansion.separators (← get)
  let text (cells : List Cell) : String := .ofList (Field.text cells)
  let status := if ended then 0 else 1
  let done ← surviving do
    match g.value? 'a' with
    | some name => do
      let items := (Field.ofCells ifs line).map fun cells => ({ place := none, value := text cells } : Item)
      assignAll name false items
    | none =>
      match g.operands with
      | [] => assignTo "REPLY" none false (text line)
      | names => do
        let fields :=
          if exactly.isSome then line :: names.tail.map (fun _ => []) else Builtin.deal ifs names.length line
        for (name, field) in names.zip fields do
          if !isTarget name then
            notName name
            throw .dropped
          let (name, place) := nameAndPlace name
          assignTo name place false (text field)
  return if done then status else 1

/-! ### Rows of lines -/

/-- Read lines up to the end, or so many of them. -/
def lines (fd : Nat) (stop : Char) : Nat → Option Nat → Act (List (String × Bool))
  | 0, _ | _, some 0 => return []
  | fuel + 1, most => do
    match ← Builtin.inputLine fd stop Builtin.linePieces with
    | ("", false) => return []
    | (line, false) => return [(line, false)]
    | (line, true) => do
      return (line, true) :: (← lines fd stop fuel (most.map (· - 1)))

/-- Read lines into a row. Behind so many of them a script is run, with the place and the line. -/
def mapfile (inner : Inner) : Own := withOptions "t" "dnOsuCc" fun g => do
  let most ← optionNumber g 'n' "invalid line count"
  let origin ← optionNumber g 'O' "invalid array origin"
  let skipped ← optionNumber g 's' "invalid line count"
  let quantum ← optionNumber g 'c' "invalid callback quantum"
  let fd ← inputDescriptor g
  let name := g.operands.headD "MAPFILE"
  if !isName name.toList then
    notName name
    return 1
  let stop := match g.value? 'd' with | some d => d.toList.headD '\x00' | none => '\n'
  let skipped := skipped.getD 0
  let most := match most with | some 0 | none => none | some n => some (n + skipped)
  let found := (← lines fd stop Builtin.linePieces most).drop skipped
  if origin.isNone then
    let done ← surviving (assignAll name false [])
    if !done then return 1
  let quantum := max 1 (quantum.getD 5000)
  for ((line, ended), i) in found.zipIdx do
    let text := if ended && !g.has 't' then line ++ stop.toString else line
    let place := origin.getD 0 + i
    match g.value? 'C' with
    | some script =>
      if (i + 1) % quantum = 0 then
        let _ ← runText inner {} (script ++ " " ++ toString place ++ " " ++ Quoting.reusable text)
    | none => pure ()
    assignTo name (some (toString place)) false text
  return 0

/-! ### Options -/

/-- What comes of looking for an option: the letter, the argument, where it is read on, and what is told. -/
structure OptionRead where
  letter : Char
  argument : Option String := none
  index : Nat
  offset : Nat := 0
  isEnd : Bool := false
  told : Option String := none

/-- Look for an option in words, from a place in one of them on. -/
def readOption (spec : List Char) (words : List String) (index offset : Nat) : OptionRead :=
  let quiet := spec.head? == some ':'
  let word := (words[index - 1]?.getD "").toList
  let atEnd (index : Nat) : OptionRead := { letter := '?', index, isEnd := true }
  let ofLetter (c : Char) (rest : List Char) : OptionRead :=
    let (next, offset) := if rest.isEmpty then (index + 1, 0) else (index, word.length - rest.length)
    let place := spec.dropWhile (· != c)
    if c == ':' || place.isEmpty then
      { letter := '?', argument := if quiet then some c.toString else none, index := next, offset
        told := if quiet then none else some ("illegal option -- " ++ c.toString) }
    else if place[1]? == some ':' then
      if !rest.isEmpty then { letter := c, argument := some (.ofList rest), index := index + 1 }
      else
        match words[index]? with
        | some value => { letter := c, argument := some value, index := index + 2 }
        | none =>
          { letter := if quiet then ':' else '?', argument := if quiet then some c.toString else none
            index := index + 1
            told := if quiet then none else some ("option requires an argument -- " ++ c.toString) }
    else { letter := c, index := next, offset }
  if offset = 0 || word.length ≤ offset then
    if words.length < index then atEnd index
    else
      match word with
      | ['-', '-'] => atEnd (index + 1)
      | '-' :: c :: rest => ofLetter c rest
      | _ => atEnd index
  else
    match word.drop offset with
    | c :: rest => ofLetter c rest
    | [] => atEnd index

def getopts : Own := withOptions "" "" fun g => do
  match g.operands with
  | spec :: name :: rest => do
    let s ← get
    let words := if rest.isEmpty then s.positional else rest
    let o := readOption spec.toList words s.optionIndex s.optionOffset
    match o.told with
    | some told =>
      if s.value? "OPTERR" != some "0" then complain (s.name ++ ": " ++ told)
    | none => pure ()
    if !o.isEnd then
      match o.argument with
      | some a => assign "OPTARG" a
      | none => modify (·.setVariable "OPTARG" none)
    modify fun s => s.setVariable "OPTIND" (some
      { (s.declared? "OPTIND").getD {} with value := some (toString o.index) })
    modify fun s => { s with optionIndex := o.index, optionOffset := o.offset }
    if !isName name.toList then
      notName name
      return 1
    let done ← surviving (assignTo name none false o.letter.toString)
    return if o.isEnd || !done then 1 else 0
  | _ => showUsage

end Ensemble.Shell.Extended.Builtin
