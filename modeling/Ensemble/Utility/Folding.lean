import Ensemble.Utility.Amount
import Ensemble.Utility.Input

/-!
# Ensemble.Utility.Folding

Utilities that **lay lines out anew**: `fold` cuts long ones, `expand` and `unexpand` turn tabs into
blanks and back, and `rev` turns lines round. A tab goes on to the next stop.
-/

namespace Ensemble.Utility

/-! ### Cutting -/

/-- How lines are cut. -/
structure Folding where
  width : Nat := 80
  /-- Does every octet take one column? -/
  octets : Bool := false
  /-- Are lines cut behind blanks, where there are any? -/
  atBlanks : Bool := false

namespace Folding

/-- The column behind a character. -/
def column (f : Folding) (n : Nat) (c : Char) : Nat :=
  if f.octets then n + 1
  else if c == '\x08' then n - 1
  else if c == '\r' then 0
  else if c == '\t' then n + 8 - n % 8
  else n + 1

/-- A line that is being cut: what is held back of it, the last first, and the column behind it. -/
structure State where
  held : List Char := []
  column : Nat := 0
  /-- What has been cut, the last first. -/
  done : List String := []

def isGap (c : Char) : Bool :=
  c == ' ' || c == '\t'

/-- Take a character that does not end a line, cutting before it if it comes too far. -/
def take (f : Folding) : Nat → State → Char → State
  | 0, s, _ => s
  | fuel + 1, s, c =>
    let next := f.column s.column c
    if next ≤ f.width then { s with held := c :: s.held, column := next }
    else
      let after := s.held.takeWhile (!isGap ·)
      if f.atBlanks && after.length < s.held.length then
        let piece := String.ofList (s.held.drop after.length).reverse ++ "\n"
        let column := after.reverse.foldl f.column 0
        take f fuel ⟨after, column, piece :: s.done⟩ c
      else if s.held.isEmpty then { s with held := [c], column := next }
      else take f fuel ⟨[], 0, (String.ofList s.held.reverse ++ "\n") :: s.done⟩ c

/-- Take a character. -/
def step (f : Folding) (s : State) (c : Char) : State :=
  if c == '\n' then ⟨[], 0, (String.ofList s.held.reverse ++ "\n") :: s.done⟩
  else f.take (s.held.length + 3) s c

/-- A text with its lines cut. -/
def run (f : Folding) (text : String) : String :=
  let s := text.toList.foldl f.step {}
  String.join s.done.reverse ++ .ofList s.held.reverse

end Folding

/-- Do something with the content of each input, or complain. -/
def withContents (operands : List String) (act : String → Tool Nat) : Tool Nat :=
  forFiles operands fun path => do
    match ← contentOf path with
    | .text s => act s
    | .notOpened e | .notRead e => do
      complainOf (nameOf path) e
      return 1

def fold (args : List String) : Tool Nat := do
  let (chosen, operands) ← ({
    letters := "bsw:0::1::2::3::4::5::6::7::8::9::"
    words := [("bytes", "b"), ("spaces", "s"), ("width:", "w")] } : Choices).given args
  let widths := chosen.filterMap fun (option, value) =>
    if option == "w" then some value
    else if option.toList.all Char.isDigit then some (option ++ value)
    else none
  let width ←
    match widths with
    | [] => pure 80
    | text :: _ =>
      let cs := text.toList.dropWhile Shell.Numeral.isSpace
      let cs := match cs with | '+' :: cs => cs | cs => cs
      match (String.ofList cs).toNat? with
      | some 0 =>
        giveUp 1 ("invalid number of columns: " ++ quoted text ++ ": Numerical result out of range")
      | some n => pure n
      | none => giveUp 1 ("invalid number of columns: " ++ quoted text)
  let f : Folding := { width, octets := chosen.has "b", atBlanks := chosen.has "s" }
  withContents operands fun s => do
    say (f.run s)
    return 0

/-! ### Tabs -/

/-- Where tabs go: to each of some columns, and behind them to all multiples of a number, counted from
the first column or from the last stop. -/
structure TabStops where
  stops : List Nat := []
  every : Option Nat := none
  onward : Option Nat := none

namespace TabStops

/-- The stop behind a column, if there is one. -/
def next? (t : TabStops) (column : Nat) : Option Nat :=
  match t.stops.find? (column < ·) with
  | some stop => some stop
  | none =>
    match t.every, t.onward with
    | some n, _ => some (column + (n - column % n))
    | none, some n =>
      let last := (t.stops.getLast?).getD 0
      some (column + (n - (column - last) % n))
    | none, none => none

/-- The words of a list of stops. -/
def words (text : String) : List String :=
  let cs := text.toList.map fun c => if c == ' ' || c == '\t' then ',' else c
  let (first, more) := Text.cutBetween ',' cs
  ((first :: more).filter (!·.isEmpty)).map String.ofList

/-- The stops that a list names. -/
def read (t : TabStops) : List String → Tool TabStops
  | [] => return t
  | word :: words => do
    let (mark, digits) :=
      match word.toList with
      | '/' :: cs => (some '/', cs)
      | '+' :: cs => (some '+', cs)
      | cs => (none, cs)
    match digits.dropWhile Char.isDigit with
    | [] => pure ()
    | '/' :: _ => giveUp 1 ("'/' specifier not at start of number: " ++ quoted (.ofList (digits.dropWhile Char.isDigit)))
    | '+' :: _ => giveUp 1 ("'+' specifier not at start of number: " ++ quoted (.ofList (digits.dropWhile Char.isDigit)))
    | rest => giveUp 1 ("tab size contains invalid character(s): " ++ quoted (.ofList rest))
    let n := (Shell.Numeral.digits 10 digits).1
    if UInt64.size ≤ n then giveUp 1 ("tab stop is too large " ++ quoted (.ofList digits))
    match mark with
    | some '/' => do
      if t.every.isSome && t.every != some n then giveUp 1 "'/' specifier only allowed with the last value"
      read { t with every := some n } words
    | some _ => read { t with onward := some n } words
    | none => read { t with stops := t.stops ++ [n] } words

/-- Are numbers in strictly rising order? -/
def isRising : List Nat → Bool
  | a :: b :: ns => decide (a < b) && isRising (b :: ns)
  | _ => true

/-- Stops of which one alone stands for all its multiples. -/
def settled (t : TabStops) : Tool TabStops := do
  if t.stops.contains 0 then giveUp 1 "tab size cannot be 0"
  if !isRising t.stops then giveUp 1 "tab sizes must be ascending"
  if t.every.isSome && t.onward.isSome then giveUp 1 "'/' specifier is mutually exclusive with '+'"
  let marked := (t.every.orElse fun _ => t.onward).getD 0
  match t.stops, marked with
  | [], 0 => return { every := some 8 }
  | [n], 0 => return { every := some n }
  | stops, 0 => return { stops }
  | [], n => return { every := some n }
  | _, _ => return t

/-- The stops that options name. -/
def ofChosen (chosen : Chosen) : Tool TabStops := do
  let mut t : TabStops := {}
  for (option, value) in chosen.reverse do
    if option == "t" then t ← t.read (words value)
    else if option.toList.all Char.isDigit then t ← t.read (words (option ++ value))
  t.settled

end TabStops

/-- A line whose tabs have been turned into blanks. -/
def expandLine (t : TabStops) (onlyLeading : Bool) : Nat → Bool → List Char → List Char
  | _, _, [] => []
  | column, converts, c :: cs =>
    if !converts then c :: cs
    else if c == '\t' then
      let next := (t.next? column).getD (column + 1)
      List.replicate (next - column) ' ' ++ expandLine t onlyLeading next true cs
    else
      let next := if c == '\x08' then column - 1 else column + 1
      c :: expandLine t onlyLeading next (!onlyLeading || c == ' ') cs

/-- The letters of options for stops. -/
def tabLetters : String := "t:0::1::2::3::4::5::6::7::8::9::,::"

def expand (args : List String) : Tool Nat := do
  let (chosen, operands) ← ({
    letters := "i" ++ tabLetters
    words := [("initial", "i"), ("tabs:", "t")] } : Choices).given args
  let t ← TabStops.ofChosen chosen
  withContents operands fun s => do
    for line in Text.cutAfter '\n' s.toList do
      say (.ofList (expandLine t (chosen.has "i") 0 true line))
    return 0

/-- A line whose blanks are being turned into tabs. -/
structure Gathering where
  column : Nat := 0
  converts : Bool := true
  /-- Is the last held blank alone before a stop? -/
  aloneBefore : Bool := false
  wasBlank : Bool := true
  held : List Char := []
  /-- What is done, the last first. -/
  done : List Char := []

namespace Gathering

/-- Pass on what is held, and a character. -/
def pass (g : Gathering) (c : Char) (all : Bool) : Gathering :=
  let isBlank := c == ' ' || c == '\t'
  let held := match g.held with
    | _ :: more => if more != [] && g.aloneBefore then '\t' :: more else g.held
    | [] => []
  { g with
    done := c :: held.reverse ++ g.done, held := []
    aloneBefore := if g.held.isEmpty then g.aloneBefore else false
    wasBlank := isBlank, converts := all || isBlank }

/-- Take a character. -/
def step (t : TabStops) (all : Bool) (g : Gathering) (c : Char) : Gathering :=
  if !g.converts then { g with done := c :: g.done }
  else if c == ' ' || c == '\t' then
    match t.next? g.column with
    | none => { g.pass c all with converts := false }
    | some next =>
      let kept (held : List Char) : List Char := if g.aloneBefore then held.take 1 else []
      let asTab (held : List Char) : List Char :=
        match held with | _ :: more => '\t' :: more | [] => []
      if c == '\t' then { g with column := next, held := kept (asTab g.held) }.pass '\t' all
      else
        let column := g.column + 1
        if g.wasBlank && column = next then
          { g with column, held := kept (if g.held.isEmpty then ['\t'] else asTab g.held) }.pass '\t' all
        else
          { g with
            column, held := g.held ++ [c], wasBlank := true
            aloneBefore := g.aloneBefore || column = next }
  else if c == '\x08' then { g with column := g.column - 1 }.pass c all
  else { g with column := g.column + 1 }.pass c all

/-- The line with blanks turned into tabs. -/
def run (t : TabStops) (all : Bool) (line : List Char) : String :=
  let g := line.foldl (step t all) {}
  .ofList (g.done.reverse ++ g.held)

end Gathering

def unexpand (args : List String) : Tool Nat := do
  let (chosen, operands) ← ({
    letters := "a" ++ tabLetters
    words := [("tabs:", "t"), ("all", "a"), ("first-only", "first")] } : Choices).given args
  let t ← TabStops.ofChosen chosen
  let hasStops := chosen.any fun (option, _) => option == "t"
  let all := (chosen.has "a" || hasStops) && !chosen.has "first"
  withContents operands fun s => do
    for line in Text.cutAfter '\n' s.toList do
      say (Gathering.run t all line)
    return 0

/-! ### Turning round -/

def rev (args : List String) : Tool Nat := do
  let (_, operands) ← ({} : Choices).given args
  forFiles operands fun path => do
    match ← contentOf path with
    | .text s => do
      for line in Text.cutAfter '\n' s.toList do
        let body := bare '\n' line
        say (.ofList (body.reverse ++ line.drop body.length))
      return 0
    | .notOpened e | .notRead e => do
      sayError ((← get).name ++ ": cannot open " ++ path ++ ": " ++ e.message ++ "\n")
      return 1

end Ensemble.Utility
