import Ensemble.Utility.Amount
import Ensemble.Utility.Input

/-!
# Ensemble.Utility.Ends

The **beginnings and ends** of inputs: `head` and `tail`. What `head` has read and does not want is
given back to an input that can be read again, so whoever reads it next finds the rest.
-/

namespace Ensemble.Utility

/-- What part of an input is wanted. -/
inductive Part
  /-- So many units from the beginning. -/
  | first (n : Nat)
  /-- All but the last units. -/
  | allButLast (n : Nat)
  | last (n : Nat)
  /-- All from a unit on, where the first is 1. -/
  | fromUnit (n : Nat)
deriving DecidableEq, Repr

/-- How parts of inputs are shown. -/
structure PartOptions where
  part : Part
  /-- Are lines counted, and not characters? -/
  lines : Bool := true
  stop : Char := '\n'
  /-- Is the name of an input told? If this is open, it depends on how many there are. -/
  headers : Option Bool := none

/-- Units of a text: lines with what ends them, or characters. -/
def unitsOf (o : PartOptions) (text : String) : List (List Char) :=
  if o.lines then Text.cutAfter o.stop text.toList else text.toList.map ([·])

/-- A part of a text. -/
def PartOptions.take (o : PartOptions) (text : String) : String :=
  let units := unitsOf o text
  .ofList (match o.part with
    | .first n => units.take n
    | .allButLast n => units.take (units.length - n)
    | .last n => units.drop (units.length - n)
    | .fromUnit n => units.drop (n - 1)).flatten

/-- Read so many lines from the beginning, and give the rest back. -/
def headLines (stop : Char) : Nat → Feed → Tool (Option MachineFault)
  | 0, f => do
    f.giveBack
    return none
  | n + 1, f => do
    match ← f.line? stop readLimit with
    | .error e => return some e
    | .ok (none, _) => return none
    | .ok (some line, f) => do
      say (.ofList line)
      headLines stop n f

/-- Read so many characters from the beginning. -/
def headCharacters (fd : Nat) : Nat → Nat → Tool (Option MachineFault)
  | 0, _ => return none
  | fuel + 1, n => do
    if n = 0 then return none
    match ← ask (.read fd (min n 8192)) with
    | .error e => return some e
    | .ok "" => return none
    | .ok text => do
      say text
      headCharacters fd fuel (n - text.length)

/-- Read a part of an input. -/
def readPart (o : PartOptions) (fd : Nat) : Tool (Option MachineFault) := do
  match o.part, o.lines with
  | .first n, true => headLines o.stop n { fd }
  | .first n, false => headCharacters fd (n + 1) n
  | _, _ => do
    match ← readRest fd readLimit [] with
    | .error e => return some e
    | .ok text => do
      say (o.take text)
      return none

/-- Show the parts of all inputs. -/
def showParts (o : PartOptions) (operands : List String) : Tool Nat := do
  let paths := if operands.isEmpty then ["-"] else operands
  let headers := o.headers.getD (decide (1 < paths.length))
  let mut first := true
  let mut status := 0
  for path in paths do
    match ← openInput path with
    | .error e => do
      complainOf ("cannot open " ++ shellQuoted path ++ " for reading") e
      status := 1
    | .ok fd => do
      if headers then
        say ((if first then "" else "\n") ++ "==> " ++
          (if path = "-" then "standard input" else path) ++ " <==\n")
        first := false
      match ← readPart o fd with
      | none => pure ()
      | some e => do
        complainOf ("error reading " ++ shellQuoted (if path = "-" then "standard input" else path)) e
        status := 1
      closeInput fd
  return status

/-- What an amount is counted in. -/
def unitName (lines : Bool) : String :=
  if lines then "number of lines" else "number of bytes"

/-! ### Beginnings -/

/-- The first argument of `head` if it is a number behind a dash, with letters behind it. -/
def headNumber (o : PartOptions) (word : List Char) : Tool PartOptions := do
  let digits := word.takeWhile Char.isDigit
  let mut o := { o with lines := true }
  let mut unit := ""
  for c in word.drop digits.length do
    match c with
    | 'c' => o := { o with lines := false }
    | 'b' | 'k' | 'm' => do
      o := { o with lines := false }
      unit := c.toString
    | 'l' => o := { o with lines := true }
    | 'q' => o := { o with headers := some false }
    | 'v' => o := { o with headers := some true }
    | 'z' => o := { o with stop := '\x00' }
    | c => misused ("invalid trailing option -- " ++ c.toString)
  let n ← amountOr 1 (unitName o.lines) (.ofList digits ++ unit)
  return { o with part := .first n }

def head (args : List String) : Tool Nat := do
  let start : PartOptions := { part := .first 10 }
  let (start, args) ←
    match args with
    | a :: rest =>
      match a.toList with
      | '-' :: c :: cs =>
        if c.isDigit then pure (← headNumber start (c :: cs), rest) else pure (start, args)
      | _ => pure (start, args)
    | [] => pure (start, args)
  let choices : Choices := {
    letters := "c:n:qvz"
    words := [("bytes:", "c"), ("lines:", "n"), ("quiet", "q"), ("silent", "q"), ("verbose", "v"),
      ("zero-terminated", "z")] }
  let (o, operands) ← choices.fold args start fun o name value => do
    let v := value.getD ""
    match name with
    | "q" => return { o with headers := some false }
    | "v" => return { o with headers := some true }
    | "z" => return { o with stop := '\x00' }
    | name => do
      let o := { o with lines := name == "n" }
      match v.toList with
      | '-' :: cs => return { o with part := .allButLast (← amountOr 1 (unitName o.lines) (.ofList cs)) }
      | _ => return { o with part := .first (← amountOr 1 (unitName o.lines) v) }
  showParts o operands

/-! ### Ends -/

/-- The part that a number with a sign stands for. -/
def tailPart (o : PartOptions) (v : String) : Tool PartOptions := do
  match v.toList with
  | '+' :: cs => return { o with part := .fromUnit (← amountOr 1 (unitName o.lines) (.ofList cs)) }
  | '-' :: cs => return { o with part := .last (← amountOr 1 (unitName o.lines) (.ofList cs)) }
  | _ => return { o with part := .last (← amountOr 1 (unitName o.lines) v) }

/-- The first argument of `tail` if it is a number behind a sign, where no option comes in between. -/
def tailNumber? (args : List String) : Option PartOptions :=
  match args with
  | [] => none
  | a :: rest =>
    let fits :=
      match rest with
      | [] => true
      | [b] => b = "-" || b.toList.head? != some '-'
      | [b, _] => b = "--"
      | _ => false
    match a.toList with
    | sign :: cs =>
      let digits := cs.takeWhile Char.isDigit
      let rest := cs.drop digits.length
      let isSign := sign == '+' || (sign == '-' && (!digits.isEmpty || rest.head? == some 'l'))
      if !fits || !isSign then none
      else
        let n := if digits.isEmpty then 10 else (Shell.Numeral.digits 10 digits).1
        let made (lines : Bool) (unit : Nat) : Option PartOptions :=
          some { part := if sign == '+' then .fromUnit (n * unit) else .last (n * unit), lines }
        match rest with
        | [] | ['l'] => if digits.isEmpty && rest.isEmpty then none else made true 1
        | ['c'] => made false 1
        | ['b'] => made false 512
        | _ => none
    | [] => none

def tail (args : List String) : Tool Nat := do
  match tailNumber? args with
  | some o => showParts o (args.drop 1 |>.filter (· != "--"))
  | none => do
    match args with
    | a :: _ =>
      match a.toList with
      | '-' :: c :: _ =>
        if c.isDigit then giveUp 1 ("option used in invalid context -- " ++ c.toString)
      | _ => pure ()
    | [] => pure ()
    let choices : Choices := {
      letters := "c:n:fFqs:vz"
      words := [("bytes:", "c"), ("lines:", "n"), ("quiet", "q"), ("silent", "q"), ("verbose", "v"),
        ("follow::", "f"), ("retry", "F"), ("pid:", "s"), ("sleep-interval:", "s"),
        ("zero-terminated", "z")] }
    let (o, operands) ← choices.fold args ({ part := .last 10 } : PartOptions) fun o name value => do
      match name with
      | "q" => return { o with headers := some false }
      | "v" => return { o with headers := some true }
      | "z" => return { o with stop := '\x00' }
      | "c" => tailPart { o with lines := false } (value.getD "")
      | "n" => tailPart { o with lines := true } (value.getD "")
      | _ => return o
    showParts o operands

end Ensemble.Utility
