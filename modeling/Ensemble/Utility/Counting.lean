import Ensemble.Utility.Amount
import Ensemble.Utility.Input

/-!
# Ensemble.Utility.Counting

**Counting** what is in inputs, and numbering their lines: `wc` and `nl`.
-/

namespace Ensemble.Utility

/-- One of a few words, of which a beginning is enough that fits no other; or else the end of the
utility. -/
def oneOf (option : String) (valid : List String) (given : String) : Tool String := do
  if valid.contains given then return given
  match valid.filter fun w => given.toList.isPrefixOf w.toList with
  | [w] => return w
  | fitting => do
    complain ((if fitting.isEmpty then "invalid" else "ambiguous") ++ " argument " ++ quoted given ++
      " for " ++ quoted option)
    sayError ("Valid arguments are:\n" ++ String.join (valid.map fun w => "  - " ++ quoted w ++ "\n"))
    let d ← get
    sayError (d.hint d.name)
    stop 1

/-! ### Counts -/

/-- What there is in an input. -/
structure Counts where
  lines : Nat := 0
  words : Nat := 0
  characters : Nat := 0
  /-- The width of the longest line. -/
  longest : Nat := 0
deriving Repr

namespace Counts

/-- Counts that are still growing: is a word going on, and how wide is the line so far? -/
structure Growing where
  counts : Counts := {}
  inWord : Bool := false
  width : Nat := 0

/-- Count one character. -/
def step (g : Growing) (c : Char) : Growing :=
  let counts := { g.counts with characters := g.counts.characters + 1 }
  let ended (counts : Counts) : Counts := { counts with longest := max counts.longest g.width }
  match c with
  | '\n' => ⟨ended { counts with lines := counts.lines + 1 }, false, 0⟩
  | '\r' | '\x0c' => ⟨ended counts, false, 0⟩
  | '\t' => ⟨counts, false, g.width + (8 - g.width % 8)⟩
  | ' ' => ⟨counts, false, g.width + 1⟩
  | '\x0b' => ⟨counts, false, g.width⟩
  | c =>
    if !isPrintable c then ⟨counts, g.inWord, g.width⟩
    else
      let counts := if g.inWord then counts else { counts with words := counts.words + 1 }
      ⟨counts, true, g.width + 1⟩

def ofText (text : String) : Counts :=
  let g := text.toList.foldl step {}
  { g.counts with longest := max g.counts.longest g.width }

/-- The counts of several inputs together. -/
def add (a b : Counts) : Counts :=
  ⟨a.lines + b.lines, a.words + b.words, a.characters + b.characters, max a.longest b.longest⟩

/-- The counts that are wanted, in their order. -/
def wanted (kinds : List String) (c : Counts) : List Nat :=
  [("l", c.lines), ("w", c.words), ("m", c.characters), ("c", c.characters), ("L", c.longest)].filterMap
    fun (kind, n) => if kinds.contains kind then some n else none

/-- Counts in columns, with a name behind them. -/
def row (width : Nat) (counts : List Nat) (name : Option String) : String :=
  let column (n : Nat) : String :=
    let digits := toString n
    .ofList (List.replicate (width - digits.length) ' ') ++ digits
  " ".intercalate (counts.map column) ++ (match name with | some n => " " ++ n | none => "") ++ "\n"

end Counts

/-- The width of the columns, by the sizes of the inputs. -/
def columnWidth (kinds : List String) (paths : List String) : Tool Nat := do
  if paths.length = 1 && kinds.length = 1 then return 1
  let mut least := 1
  let mut total := 0
  for path in paths do
    match ← if path = "-" then ask (.descriptorStatus 0) else ask (.status path true) with
    | .ok s => if s.kind = .file then total := total + s.size else least := 7
    | .error _ => pure ()
  return max least (toString total).length

def wc (args : List String) : Tool Nat := do
  let (chosen, operands) ← ({
    letters := "clLmw"
    words := [("bytes", "c"), ("chars", "m"), ("lines", "l"), ("words", "w"), ("total:", "total"),
      ("max-line-length", "L")] } : Choices).fold args ([] : Chosen) fun chosen name value => do
      let v ← if name = "total" then oneOf "--total" ["auto", "always", "only", "never"] (value.getD "")
        else pure ""
      return (name, v) :: chosen
  let chosen : Chosen := chosen
  let kinds := ["l", "w", "m", "c", "L"].filter chosen.has
  let kinds := if kinds.isEmpty then ["l", "w", "c"] else kinds
  let paths := if operands.isEmpty then ["-"] else operands
  let mode := (chosen.value? "total").getD "auto"
  let width ← if mode = "only" then pure 1 else columnWidth kinds paths
  let mut total : Counts := {}
  let mut status := 0
  for path in paths do
    let name := if operands.isEmpty then none else some path
    let mut counts : Option Counts := some {}
    match ← contentOf path with
    | .text s => counts := some (Counts.ofText s)
    | .notRead e => do
      complainOf (nameOf path) e
      status := 1
    | .notOpened e => do
      complainOf (nameOf path) e
      status := 1
      counts := none
    match counts with
    | some c => do
      total := total.add c
      if mode != "only" then say (Counts.row width (c.wanted kinds) name)
    | none => pure ()
  if mode = "always" || mode = "only" || (mode = "auto" && 1 < paths.length) then
    say (Counts.row width (total.wanted kinds) (if mode = "only" then none else some "total"))
  return status

/-! ### Numbers -/

/-- How lines are numbered. -/
structure Numbering where
  style : String := "t"
  separator : String := "\t"
  width : Nat := 6
  format : String := "rn"
  first : Int := 1
  step : Int := 1

namespace Numbering

/-- A number in its column. -/
def column (o : Numbering) (n : Int) : String :=
  let digits := toString n.natAbs
  let sign := if n < 0 then "-" else ""
  let room := o.width - digits.length - sign.length
  match o.format with
  | "ln" => sign ++ digits ++ .ofList (List.replicate room ' ')
  | "rz" => sign ++ .ofList (List.replicate room '0') ++ digits
  | _ => .ofList (List.replicate room ' ') ++ sign ++ digits

/-- Does a line get a number? -/
def numbers (o : Numbering) (line : List Char) : Bool :=
  match o.style with
  | "a" => true
  | "n" => false
  | _ => !line.isEmpty

/-- Number a line. -/
def line (o : Numbering) (n : Int) (line : List Char) : Int × String :=
  if o.numbers line then (n + o.step, o.column n ++ o.separator ++ .ofList line ++ "\n")
  else
    (n, .ofList (List.replicate (o.width + o.separator.length) ' ') ++ .ofList line ++ "\n")

end Numbering

/-- A whole number that an option is given. -/
def wholeOr (what s : String) : Tool Int := do
  match Shell.Numeral.whole? 10 s with
  | some n => return n
  | none => giveUp 1 ("invalid " ++ what ++ ": " ++ quoted s)

def nl (args : List String) : Tool Nat := do
  let choices : Choices := {
    letters := "h:b:f:v:i:pl:s:w:n:d:"
    words := [("header-numbering:", "h"), ("body-numbering:", "b"), ("footer-numbering:", "f"),
      ("starting-line-number:", "v"), ("line-increment:", "i"), ("no-renumber", "p"),
      ("join-blank-lines:", "l"), ("number-separator:", "s"), ("number-width:", "w"),
      ("number-format:", "n"), ("section-delimiter:", "d")] }
  let (o, operands) ← choices.fold args ({} : Numbering) fun o name value => do
    let v := value.getD ""
    match name with
    | "b" =>
      if ["a", "t", "n"].contains v then return { o with style := v }
      else misused ("invalid body numbering style: " ++ quoted v)
    | "s" => return { o with separator := v }
    | "n" =>
      if ["ln", "rn", "rz"].contains v then return { o with format := v }
      else misused ("invalid line numbering format: " ++ quoted v)
    | "w" => do
      let n ← wholeOr "line number field width" v
      if n ≤ 0 then
        giveUp 1 ("invalid line number field width: " ++ quoted v ++
          ": Numerical result out of range")
      return { o with width := n.toNat }
    | "v" => return { o with first := ← wholeOr "starting line number" v }
    | "i" => return { o with step := ← wholeOr "line number increment" v }
    | _ => return o
  let mut n := o.first
  let mut status := 0
  for path in if operands.isEmpty then ["-"] else operands do
    match ← contentOf path with
    | .text s => do
      let (next, pieces) := (linesOf s).foldl (fun (n, pieces) l =>
        let (next, text) := o.line n l.toList
        (next, text :: pieces)) (n, ([] : List String))
      n := next
      say (String.join pieces.reverse)
    | .notOpened e | .notRead e => do
      complainOf (nameOf path) e
      status := 1
  return status

end Ensemble.Utility
