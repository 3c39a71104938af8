import Ensemble.Utility.Amount
import Ensemble.Utility.Concatenation

/-!
# Ensemble.Utility.Comparing

Utilities that tell **where two inputs differ**: `cmp` octet by octet, and `comm` line by line, of inputs
whose lines are in order.
-/

namespace Ensemble.Utility

/-- How much may be compared at most. -/
def comparedLimit : Nat := 9223372036854775807

/-! ### Octets -/

/-- What is told of two inputs, octet by octet. -/
structure OctetComparing where
  /-- Are all places told, or is nothing told? -/
  all : Bool := false
  silent : Bool := false
  /-- Are the octets shown? -/
  shown : Bool := false
  most : Nat := comparedLimit
  /-- How wide the column of the places is. -/
  width : Nat := 1

namespace OctetComparing

/-- An octet so that it can be read. -/
def shownOctet (c : Char) : String :=
  let s : Showing := { marks := true, tabs := true }
  if c == '\n' then "^J" else s.character c

/-- The number of an octet in its column. -/
def octal (c : Char) : String :=
  let digits := Nat.toDigits 8 c.toNat
  .ofList (List.replicate (3 - digits.length) ' ' ++ digits)

/-- A text with blanks before it, or behind it. -/
def behindBlanks (width : Nat) (s : String) : String :=
  .ofList (List.replicate (width - s.length) ' ') ++ s

def beforeBlanks (width : Nat) (s : String) : String :=
  s ++ .ofList (List.replicate (width - s.length) ' ')

/-- How far two inputs have been compared. -/
structure Place where
  octets : Nat := 0
  lines : Nat := 0
  atLineStart : Bool := true

/-- Tell where one of the inputs ends before the other. -/
def tellEnd (c : OctetComparing) (path : String) (p : Place) : Tool Nat := do
  if !c.silent then
    complain ("EOF on " ++ path ++
      (if p.octets = 0 then " which is empty"
      else
        " after byte " ++ toString p.octets ++
          (if c.all then ""
          else if p.atLineStart then ", line " ++ toString p.lines
          else ", in line " ++ toString (p.lines + 1))))
  return 1

/-- Compare two inputs. -/
def run (c : OctetComparing) (paths : String × String) :
    Place → Nat → List Char → List Char → Tool Nat
  | p, status, xs, ys =>
    if c.most ≤ p.octets then return status
    else
      match xs, ys with
      | [], [] => return status
      | [], _ => c.tellEnd paths.1 p
      | _, [] => c.tellEnd paths.2 p
      | x :: xs, y :: ys => do
        let next : Place :=
          ⟨p.octets + 1, if x == '\n' then p.lines + 1 else p.lines, x == '\n'⟩
        if x == y then run c paths next status xs ys
        else if c.silent then return 1
        else if c.all then
          let place := behindBlanks c.width (toString next.octets)
          if c.shown then
            sayLine (place ++ " " ++ octal x ++ " " ++ beforeBlanks 4 (shownOctet x) ++ " " ++ octal y ++
              " " ++ shownOctet y)
          else sayLine (place ++ " " ++ octal x ++ " " ++ octal y)
          run c paths next 1 xs ys
        else
          let place := toString next.octets ++ ", line " ++ toString (p.lines + 1)
          if c.shown then
            sayLine (paths.1 ++ " " ++ paths.2 ++ " differ: byte " ++ place ++ " is " ++ octal x ++ " " ++
              shownOctet x ++ " " ++ octal y ++ " " ++ shownOctet y)
          else sayLine (paths.1 ++ " " ++ paths.2 ++ " differ: char " ++ place)
          return 1

end OctetComparing

/-- A number of octets that an option of `cmp` is given. -/
def comparedAmount (option text : String) : Tool Nat := do
  match Amount.ofString text with
  | .given n => return n
  | .tooLarge => return comparedLimit
  | .none => misused ("invalid --" ++ option ++ " value '" ++ text ++ "'")

/-- The content that is compared; what is wrong with it ends the comparison. -/
def comparedContent (silent : Bool) (path : String) : Tool String := do
  let fail (e : MachineFault) : Tool String := do
    if silent then quit 2
    giveUp 2 (path ++ ": " ++ e.message)
  match ← contentOf path with
  | .text s => return s
  | .notOpened e => fail e
  | .notRead e => fail e

def cmp (args : List String) : Tool Nat := do
  let (chosen, operands) ← ({
    letters := "bci:ln:sv"
    words := [("print-bytes", "b"), ("print-chars", "b"), ("ignore-initial:", "i"), ("verbose", "l"),
      ("bytes:", "n"), ("quiet", "s"), ("silent", "s")] } : Choices).given args
  let skips ← (chosen.filter (·.1 == "i")).reverse.mapM fun (_, text) => do
    match Text.splitFirst ':' text.toList with
    | some (a, b) =>
      return (← comparedAmount "ignore-initial" (.ofList a), ← comparedAmount "ignore-initial" (.ofList b))
    | none => do
      let n ← comparedAmount "ignore-initial" text
      return (n, n)
  let limits ← (chosen.filter (·.1 == "n")).mapM fun (_, text) => comparedAmount "bytes" text
  if chosen.has "l" && chosen.has "s" then misused "options -l and -s are incompatible"
  let (first, more) ←
    match operands with
    | [] => misused ("missing operand after '" ++ (args.getLast?.getD "cmp") ++ "'")
    | a :: more => pure (a, more)
  let second := more.headD "-"
  let given ← (more.drop 1).take 2 |>.mapM (comparedAmount "ignore-initial")
  match more.drop 3 with
  | extra :: _ => misused ("extra operand '" ++ extra ++ "'")
  | [] => pure ()
  let skip (n : Nat × Nat) : Nat × Nat := (max n.1 (given.headD 0), max n.2 ((given[1]?).getD 0))
  let (skipA, skipB) := skip (skips.foldl (fun s t => (max s.1 t.1, max s.2 t.2)) (0, 0))
  let silent := chosen.has "s"
  let a := (← comparedContent silent first).toList.drop skipA
  if second = first && skipA = skipB then return 0
  let b := (← comparedContent silent second).toList.drop skipB
  let most := limits.foldl min comparedLimit
  let size (path : String) (cs : List Char) : Nat := if path = "-" then most else cs.length
  let c : OctetComparing :=
    { all := chosen.has "l", silent, shown := chosen.has "b" || chosen.has "c", most
      width := (toString (min most (min (size first a) (size second b)))).length }
  c.run (first, second) {} 0 a b

/-! ### Lines in order -/

/-- What is told of the lines of two inputs. -/
structure LineComparing where
  /-- Are the lines told that are in the first alone, in the second alone, and in both? -/
  first : Bool := true
  second : Bool := true
  both : Bool := true
  /-- What stands between columns. -/
  between : String := "\t"
  ending : Char := '\n'
  /-- Is the order looked at in any case, or not at all? -/
  strict : Bool := false
  lax : Bool := false
  totals : Bool := false

namespace LineComparing

/-- How far two inputs have been compared: how many lines have been told of each kind, and whether the
inputs have been found to be out of order. -/
structure Count where
  first : Nat := 0
  second : Nat := 0
  both : Nat := 0
  firstWrong : Bool := false
  secondWrong : Bool := false

def Count.isUneven (n : Count) : Bool :=
  n.first + n.second != 0

/-- Look at the order of two lines of an input that follow each other. -/
def looked (c : LineComparing) (number : Nat) (known : Bool) (n : Count) (before after : List Char) :
    Tool Bool := do
  if known || c.lax || !(c.strict || n.isUneven) then return known
  else if decide (String.ofList after < String.ofList before) then
    let told := "file " ++ toString number ++ " is not in sorted order"
    if c.strict then giveUp 1 told
    complain told
    return true
  else return false

/-- Tell a line. -/
def tell (c : LineComparing) (lead : String) (line : List Char) : Tool Unit :=
  say (lead ++ .ofList line ++ c.ending.toString)

/-- Compare the lines of two inputs, given those before them. -/
def run (c : LineComparing) :
    Nat → Count → List (List Char) × List (List Char) → List (List Char) → List (List Char) → Tool Count
  | 0, n, _, _, _ => return n
  | fuel + 1, n, before, xs, ys => do
    let inSecond := if c.first then c.between else ""
    let inBoth := inSecond ++ if c.second then c.between else ""
    let order : Option Ordering :=
      match xs, ys with
      | [], [] => none
      | [], _ => some .gt
      | _, [] => some .lt
      | x :: _, y :: _ => some (compare (String.ofList x) (String.ofList y))
    match order with
    | none => return n
    | some order => do
      let n ←
        match order with
        | .eq => do
          if c.both then c.tell inBoth (ys.headD [])
          pure { n with both := n.both + 1 }
        | .lt => do
          if c.first then c.tell "" (xs.headD [])
          pure { n with first := n.first + 1 }
        | .gt => do
          if c.second then c.tell inSecond (ys.headD [])
          pure { n with second := n.second + 1 }
      let step (number : Nat) (known : Bool) (before lines : List (List Char)) :
          Tool (Bool × List (List Char) × List (List Char)) := do
        let passed := lines.take 1 ++ before
        let after := lines.drop 1
        let wrong ←
          match after, passed with
          | next :: _, line :: _ => c.looked number known n line next
          | [], line :: earlier :: _ => c.looked number known n earlier line
          | _, _ => pure known
        return (wrong, passed.take 2, after)
      let (secondWrong, beforeY, ys) ←
        if order != .lt then step 2 n.secondWrong before.2 ys
        else pure (n.secondWrong, before.2, ys)
      let (firstWrong, beforeX, xs) ←
        if order != .gt then step 1 n.firstWrong before.1 xs
        else pure (n.firstWrong, before.1, xs)
      run c fuel { n with firstWrong, secondWrong } (beforeX, beforeY) xs ys

end LineComparing

def comm (args : List String) : Tool Nat := do
  let (chosen, operands) ← ({
    letters := "123z"
    words := [("check-order", "check"), ("nocheck-order", "nocheck"), ("output-delimiter:", "between"),
      ("total", "total"), ("zero-terminated", "z")] } : Choices).given args
  let (first, second) ←
    match operands with
    | [] => misused "missing operand"
    | [a] => misused ("missing operand after " ++ quoted a)
    | a :: b :: more =>
      match more with
      | extra :: _ => misused ("extra operand " ++ quoted extra)
      | [] => pure (a, b)
  let ending := if chosen.has "z" then '\x00' else '\n'
  let lines (path : String) : Tool (List (List Char)) := do
    let fail (e : MachineFault) : Tool (List (List Char)) := giveUp 1 (nameOf path ++ ": " ++ e.message)
    match ← contentOf path with
    | .text s => return (Text.cutAfter ending s.toList).map (bare ending)
    | .notOpened e => fail e
    | .notRead e => fail e
  let between := match chosen.value? "between" with
    | some "" => "\x00"
    | some text => text
    | none => "\t"
  let c : LineComparing :=
    { first := !chosen.has "1", second := !chosen.has "2", both := !chosen.has "3", between, ending
      strict := chosen.last? ["check", "nocheck"] == some "check"
      lax := chosen.last? ["check", "nocheck"] == some "nocheck", totals := chosen.has "total" }
  let xs ← lines first
  let ys ← lines second
  let n ← c.run (xs.length + ys.length + 1) {} ([], []) xs ys
  if c.totals then
    c.tell "" (between.intercalate
      [toString n.first, toString n.second, toString n.both, "total"]).toList
  if n.firstWrong || n.secondWrong then giveUp 1 "input is not in sorted order"
  return 0

end Ensemble.Utility
