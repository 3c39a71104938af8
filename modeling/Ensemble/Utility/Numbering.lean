import Ensemble.Shell.Layout
import Ensemble.Utility.Input
import Ensemble.Utility.Options
import Ensemble.Utility.Quotation

/-!
# Ensemble.Utility.Numbering

**Rows of numbers**: `seq`. Numbers are reckoned exactly, as fractions, and told with as many places as
those that were given, or as a format says.
-/

namespace Ensemble.Utility

open Shell (Fraction Layout Binary Numeral)

/-- A number that a row is made of, and how wide it is as it was given. -/
structure Bound where
  negative : Bool
  value : Fraction
  infinite : Bool := false
  /-- How many places it has; none if that cannot be said. -/
  places : Option Nat
  width : Int

namespace Bound

def signed (g : Bound) : Int :=
  if g.negative then -g.value.numerator else g.value.numerator

/-- The number of places and the width of a number in digits. -/
def shape (cs : List Char) : Nat × Int :=
  let point := Text.splitFirst '.' cs
  let mark := (Text.splitFirst 'e' cs).or (Text.splitFirst 'E' cs)
  let part := match point with
    | some (_, behind) => (behind.takeWhile fun c => c != 'e' && c != 'E').length
    | none => 0
  let places : Int := part
  let width : Int := cs.length
  let width := match point with
    | some (before, _) =>
      if part = 0 then width - 1
      else if (before.getLast?).any Char.isDigit then width else width + 1
    | none => width
  match mark with
  | none => (places.toNat, width)
  | some (before, behind) =>
    let e := ((Numeral.read? 10 behind).map (·.value)).getD 0
    let width := width - (cs.length - before.length : Int)
    if e < 0 then
      let width := match point with
        | some _ => if before.getLast? == some '.' then width + 1 else width
        | none => width + 1
      ((places - e).toNat, width - e)
    else
      let left := places - min places e
      let width := if point.isSome && left = 0 && part != 0 then width - 1 else width
      (left.toNat, width + (e - min (part : Int) e))

/-- The number that an argument stands for, or else the end of the utility. -/
def ofArgument (s : String) : Tool Bound := do
  match Shell.Real.read? s with
  | some (.undefined _, []) => misused ("invalid " ++ quoted "not-a-number" ++ " argument: " ++ quoted s)
  | some (.infinite negative, []) => return ⟨negative, ⟨0, 1⟩, true, some 0, 0⟩
  | some (.finite negative f, []) => do
    let cs := s.toList.dropWhile fun c => Numeral.isSpace c || c == '+'
    let isHex := cs.any fun c => c == 'x' || c == 'X'
    if isHex then
      let isWhole := !cs.contains '.' && !cs.contains 'p'
      return ⟨negative, f, false, if isWhole then some 0 else none, 0⟩
    let (places, width) := shape cs
    return ⟨negative, f, false, some places, width⟩
  | _ => misused ("invalid floating point argument: " ++ quoted s)

end Bound

/-- How the numbers of a row are told. -/
structure RowFormat where
  before : String := ""
  after : String := ""
  layout : Layout := {}
  letter : Char := 'g'

namespace RowFormat

/-- A text in which two percent signs are one. -/
def halved : List Char → List Char
  | '%' :: '%' :: cs => '%' :: halved cs
  | c :: cs => c :: halved cs
  | [] => []

/-- The text in front of the first conversion, and what follows its percent sign. -/
def lead : List Char → Option (List Char × List Char)
  | '%' :: '%' :: cs => (lead cs).map fun (before, rest) => ('%' :: '%' :: before, rest)
  | '%' :: cs => some ([], cs)
  | c :: cs => (lead cs).map fun (before, rest) => (c :: before, rest)
  | [] => none

/-- The format that a text is, or else the end of the utility. -/
def ofText (s : String) : Tool RowFormat := do
  match lead s.toList with
  | none => giveUp 1 ("format " ++ quoted s ++ " has no % directive")
  | some (before, rest) => do
    let (l, rest) := Layout.flags (rest.filter (· != '\x27')) {}
    let digits := rest.takeWhile Char.isDigit
    let l := { l with width := Nat.ofDigitChars 10 digits 0 }
    let (l, rest) : Layout × List Char :=
      match rest.drop digits.length with
      | '.' :: rest =>
        let digits := rest.takeWhile Char.isDigit
        ({ l with precision := some (Nat.ofDigitChars 10 digits 0) }, rest.drop digits.length)
      | rest => (l, rest)
    let rest := match rest with | 'L' :: rest => rest | rest => rest
    match rest with
    | [] => giveUp 1 ("format " ++ quoted s ++ " ends in %")
    | c :: after => do
      if !"efgaEFGA".toList.contains c then
        giveUp 1 ("format " ++ quoted s ++ " has unknown %" ++ c.toString ++ " directive")
      if (lead after).isSome then giveUp 1 ("format " ++ quoted s ++ " has too many % directives")
      return ⟨.ofList (halved before), .ofList (halved after), l, c⟩

/-- The text of a number. -/
def text (f : RowFormat) (n : Int) (d : Nat) : String :=
  f.before ++ f.layout.real .extended f.letter (.finite (decide (n < 0)) ⟨n.natAbs, d⟩) ++ f.after

end RowFormat

/-- A row of numbers, all with one denominator. -/
structure Row where
  start : Int
  step : Int
  last : Option Int
  denominator : Nat
  format : RowFormat
  /-- Are the numbers whole, and told without more ado? -/
  plain : Bool
  separator : String

namespace Row

def text (r : Row) (n : Int) : String :=
  if r.plain then toString n else r.format.text n r.denominator

/-- Is a number behind the last one? -/
def isBehind (r : Row) (n : Int) : Bool :=
  match r.last with
  | none => false
  | some last => if r.step < 0 then decide (n < last) else decide (last < n)

/-- Is a number told like the last one, although it is behind it? -/
def looksLast (r : Row) (shown : String) : Bool :=
  let body := String.ofList
    (((shown.toList.drop r.format.before.length).take
      (shown.length - r.format.before.length - r.format.after.length)))
  match Shell.Real.read? body, r.last with
  | some (.finite negative f, []), some last =>
    (if negative then -(f.numerator : Int) else f.numerator) * r.denominator == last * f.denominator
  | _, _ => false

/-- Tell the numbers from one on. -/
def tell (r : Row) : Nat → Int → Tool Unit
  | 0, _ => return ()
  | fuel + 1, n => do
    let shown := r.text n
    say shown
    let next := n + r.step
    if r.isBehind next then
      let more := r.text next
      if !r.plain && r.looksLast more && more != shown then say (r.separator ++ more)
      say "\n"
    else do
      say r.separator
      tell r fuel next

end Row

/-- How numbers are told by the places and widths of those that were given. -/
def usualFormat (first step last : Bound) (sameWidth : Bool) : RowFormat :=
  match first.places, step.places, last.places with
  | some p, some q, some s =>
    let places := max p q
    if sameWidth then
      let firstWidth := first.width + (places - p : Int) + (if p = 0 && places != 0 then 1 else 0)
      let lastWidth := last.width + ((places : Int) - s) -
        (if s != 0 && places = 0 then 1 else 0) + (if s = 0 && places != 0 then 1 else 0)
      { layout := { zeros := true, width := (max firstWidth lastWidth).toNat, precision := some places }
        letter := 'f' }
    else { layout := { precision := some places }, letter := 'f' }
  | _, _, _ => {}

/-- Options of `seq` end where a negative number begins. -/
def beforeNumbers : List String → List String × List String
  | [] => ([], [])
  | "--" :: args => ([], args)
  | a :: args =>
    match a.toList with
    | '-' :: c :: _ =>
      if c.isDigit || c == '.' then ([], a :: args)
      else if ["-f", "-s", "--format", "--separator"].contains a then
        match args with
        | [] => ([a], [])
        | b :: args =>
          let (options, rest) := beforeNumbers args
          (a :: b :: options, rest)
      else
        let (options, rest) := beforeNumbers args
        (a :: options, rest)
    | _ => ([], a :: args)

def seq (args : List String) : Tool Nat := do
  let (options, operands) := beforeNumbers args
  let (chosen, _) ← ({
    letters := "f:s:w"
    words := [("equal-width", "w"), ("format:", "f"), ("separator:", "s")] } : Choices).given options
  match operands with
  | [] => misused "missing operand"
  | _ :: _ :: _ :: extra :: _ => misused ("extra operand " ++ quoted extra)
  | _ => pure ()
  let format? ←
    match chosen.value? "f" with
    | some f => do pure (some (← RowFormat.ofText f))
    | none => pure none
  let one : Bound := ⟨false, ⟨1, 1⟩, false, some 0, 1⟩
  let given ← operands.mapM Bound.ofArgument
  let (first, step, last) :=
    match given with
    | [a] => (one, one, a)
    | [a, b] => (a, one, b)
    | a :: b :: c :: _ => (a, b, c)
    | [] => (one, one, one)
  if step.signed = 0 && !step.infinite then
    misused ("invalid Zero increment value: " ++ quoted (operands.getD 1 ""))
  let sameWidth := chosen.has "w"
  if format?.isSome && sameWidth then
    misused "format string may not be specified when printing equal width strings"
  let d := first.value.denominator * step.value.denominator * last.value.denominator
  let onto (g : Bound) : Int := g.signed * (d / g.value.denominator : Nat)
  let plain := format?.isNone && !sameWidth && d = 1 &&
    [first, step, last].all fun g => g.places == some 0
  let r : Row := {
    start := onto first, step := onto step
    last := if last.infinite then none else some (onto last)
    denominator := d, plain
    format := format?.getD (usualFormat first step last sameWidth)
    separator := (chosen.value? "s").getD "\n" }
  if first.infinite || step.infinite then
    return 0
  if last.infinite && (last.negative != decide (r.step < 0)) then return 0
  if !r.isBehind r.start then r.tell 100000000 r.start
  return 0

end Ensemble.Utility
