import Ensemble.Utility.Amount
import Ensemble.Utility.Input

/-!
# Ensemble.Utility.Dumping

Octets **as numbers and names**: `od`. The octets of an input are taken in rows, and a row is shown once
for each form, each octet below itself; rows like the one before are left out.
-/

namespace Ensemble.Utility

/-- How pieces of a row are shown. -/
inductive DumpForm
  | names
  | characters
  /-- A number of a base without a sign. -/
  | number (base : Nat)
  | signed
deriving DecidableEq, Repr

/-- A form for pieces of so many octets; are the octets of a row shown behind it as characters? -/
structure DumpKind where
  form : DumpForm
  size : Nat
  trailer : Bool := false
deriving Repr

namespace DumpKind

/-- How wide a piece is. -/
def width (k : DumpKind) : Nat :=
  let bits := 8 * k.size
  match k.form with
  | .names | .characters => 3
  | .number 8 => (bits + 2) / 3
  | .number 16 => 2 * k.size
  | .number _ => (toString (Nat.pow 2 bits - 1)).length
  | .signed => (toString (Nat.pow 2 (bits - 1))).length + 1

/-- The names of octets that are no characters. -/
def controlNames : List String :=
  ["nul", "soh", "stx", "etx", "eot", "enq", "ack", "bel", "bs", "ht", "nl", "vt", "ff", "cr", "so",
    "si", "dle", "dc1", "dc2", "dc3", "dc4", "nak", "syn", "etb", "can", "em", "sub", "esc", "fs", "gs",
    "rs", "us", "sp"]

/-- An octet by its name; its highest bit does not count. -/
def nameOfOctet (n : Nat) : String :=
  let n := n % 128
  if n = 127 then "del" else (controlNames[n]?).getD (Char.ofNat n).toString

def digitsOf (base width n : Nat) : String :=
  let digits := Nat.toDigits base n
  .ofList (List.replicate (width - digits.length) '0' ++ digits)

/-- An octet as a character. -/
def characterOf (n : Nat) : String :=
  match n with
  | 0 => "\\0"
  | 7 => "\\a"
  | 8 => "\\b"
  | 9 => "\\t"
  | 10 => "\\n"
  | 11 => "\\v"
  | 12 => "\\f"
  | 13 => "\\r"
  | n => if 0x20 ≤ n && n < 0x7F then (Char.ofNat n).toString else digitsOf 8 3 n

/-- The text of a piece. -/
def text (k : DumpKind) (bigFirst : Bool) (octets : List Nat) : String :=
  let ordered := if bigFirst then octets else octets.reverse
  let n := ordered.foldl (fun n b => n * 256 + b) 0
  match k.form with
  | .names => nameOfOctet n
  | .characters => characterOf n
  | .number 10 => toString n
  | .number base => digitsOf base k.width n
  | .signed =>
    let half := Nat.pow 2 (8 * k.size - 1)
    toString (if n < half then (n : Int) else n - 2 * half)

end DumpKind

/-- How octets are shown. -/
structure Dumping where
  kinds : List DumpKind
  /-- The base of places, and how wide they are; without it there are none. -/
  places : Option (Nat × Nat) := some (8, 7)
  perRow : Nat := 16
  /-- Are rows left out that are like the one before? -/
  short : Bool := true
  bigFirst : Bool := false

namespace Dumping

/-- A list in pieces of so many. -/
def piecesOf (size : Nat) : Nat → List α → List (List α)
  | 0, _ => []
  | _, [] => []
  | fuel + 1, xs => xs.take size :: piecesOf size fuel (xs.drop size)

def placeText (d : Dumping) (n : Nat) : String :=
  match d.places with
  | some (base, width) => DumpKind.digitsOf base width n
  | none => ""

/-- The width of a row. -/
def rowWidth (d : Dumping) : Nat :=
  (d.kinds.map fun k => (k.width + 1) * (d.perRow / k.size)).foldl max 0

/-- A row in one form. The room that pieces leave stands before them, as evenly as that is possible. -/
def rowText (d : Dumping) (k : DumpKind) (row : List Nat) : String :=
  let count := d.perRow / k.size
  let room := d.rowWidth - k.width * count
  let pieces := piecesOf k.size (row.length + 1) row
  let text (place : Nat) (piece : List Nat) : String :=
    let left := count - place
    let before := room * left / count - room * (left - 1) / count
    let whole := piece ++ List.replicate (k.size - piece.length) 0
    let t := k.text d.bigFirst whole
    .ofList (List.replicate (before + k.width - t.length) ' ') ++ t
  let shown := String.join (pieces.zipIdx.map fun (p, n) => text n p)
  if k.trailer then
    let visible (n : Nat) : Char := if 0x20 ≤ n && n < 0x7F then Char.ofNat n else '.'
    let blanks := (count - pieces.length) * (k.width + 1)
    shown ++ .ofList (List.replicate blanks ' ') ++ "  >" ++ .ofList (row.map visible) ++ "<"
  else shown

/-- Show rows, given the place of the first, the row before, and whether rows have been left out. -/
def tell (d : Dumping) : Nat → Option (List Nat) → Bool → List (List Nat) → Tool Unit
  | _, _, _, [] => pure ()
  | place, before, skips, row :: rows => do
    if d.short && before == some row && row.length = d.perRow then
      if !skips then sayLine "*"
      tell d (place + row.length) before true rows
    else
      for (k, n) in d.kinds.zipIdx do
        let lead := if n = 0 then d.placeText place
          else .ofList (List.replicate (d.placeText place).length ' ')
        sayLine (lead ++ d.rowText k row)
      tell d (place + row.length) (some row) false rows

/-- The forms that a text names. -/
def kindsOf (whole : String) : Nat → List Char → Tool (List DumpKind)
  | 0, _ => return []
  | _, [] => return []
  | fuel + 1, c :: cs => do
    let after (cs : List Char) : Bool × List Char :=
      match cs with
      | 'z' :: cs => (true, cs)
      | cs => (false, cs)
    match c with
    | 'a' => do
      let (trailer, cs) := after cs
      return { form := .names, size := 1, trailer } :: (← kindsOf whole fuel cs)
    | 'c' => do
      let (trailer, cs) := after cs
      return { form := .characters, size := 1, trailer } :: (← kindsOf whole fuel cs)
    | 'd' | 'o' | 'u' | 'x' => do
      let digits := cs.takeWhile Char.isDigit
      let (size, cs) ←
        match digits, cs with
        | [], 'C' :: cs => pure (1, cs)
        | [], 'S' :: cs => pure (2, cs)
        | [], 'I' :: cs => pure (4, cs)
        | [], 'L' :: cs => pure (8, cs)
        | [], cs => pure (4, cs)
        | digits, cs =>
          let n := (Shell.Numeral.digits 10 digits).1
          if [1, 2, 4, 8].contains n then pure (n, cs.drop digits.length)
          else
            giveUp 1 ("invalid type string " ++ quoted whole ++ ";\nthis system doesn't provide a " ++
              toString n ++ "-byte integral type")
      let (trailer, cs) := after cs
      let form : DumpForm :=
        match c with
        | 'd' => .signed
        | 'o' => .number 8
        | 'u' => .number 10
        | _ => .number 16
      return { form, size, trailer } :: (← kindsOf whole fuel cs)
    | c =>
      giveUp 1 ("invalid character '" ++ c.toString ++ "' in type string " ++ quoted whole)

/-- The forms that have letters of their own. -/
def ofLetter? : String → Option DumpKind
  | "a" => some { form := .names, size := 1 }
  | "b" => some { form := .number 8, size := 1 }
  | "c" => some { form := .characters, size := 1 }
  | "d" => some { form := .number 10, size := 2 }
  | "D" => some { form := .number 10, size := 4 }
  | "h" | "x" => some { form := .number 16, size := 2 }
  | "H" | "X" => some { form := .number 16, size := 4 }
  | "i" => some { form := .signed, size := 4 }
  | "I" | "l" | "L" => some { form := .signed, size := 8 }
  | "B" | "o" => some { form := .number 8, size := 2 }
  | "O" => some { form := .number 8, size := 4 }
  | "s" => some { form := .signed, size := 2 }
  | _ => none

/-- An amount that an option is given. A mark before it tells its base. -/
def amount (option text : String) : Tool Nat := do
  let cs := text.toList
  let (base, digits) :=
    match cs with
    | '0' :: 'x' :: ds => (16, ds)
    | '0' :: 'X' :: ds => (16, ds)
    | '0' :: _ :: _ => (8, cs.drop 1)
    | _ => (10, cs)
  let (n, rest) := Shell.Numeral.digits base digits
  let unit? : Option Nat := if rest == ['b'] then some 512 else unitOf? (.ofList rest)
  match unit? with
  | some unit =>
    if digits.isEmpty || rest.length = digits.length then
      giveUp 1 ("invalid -" ++ option ++ " argument " ++ quoted text)
    return n * unit
  | none =>
    if rest.length < digits.length then
      giveUp 1 ("invalid suffix in -" ++ option ++ " argument " ++ quoted text)
    giveUp 1 ("invalid -" ++ option ++ " argument " ++ quoted text)

/-- The place that an operand without an option names. -/
def placeOperand? (text : String) : Option Nat :=
  let cs := match text.toList with | '+' :: cs => cs | cs => cs
  let (unit, cs) := if cs.getLast? == some 'b' && 1 < cs.length then (512, cs.dropLast) else (1, cs)
  let (base, cs) :=
    match cs with
    | '0' :: 'x' :: ds => (16, ds)
    | cs => if cs.getLast? == some '.' then (10, cs.dropLast) else (8, cs)
  let (n, rest) := Shell.Numeral.digits base cs
  if cs.isEmpty || !rest.isEmpty then none else some (n * unit)

end Dumping

open Dumping in
def od (args : List String) : Tool Nat := do
  let (chosen, operands) ← ({
    letters := "A:aBbcDdHhIij:LlN:OoS:st:vw::Xx"
    words := [("skip-bytes:", "j"), ("address-radix:", "A"), ("read-bytes:", "N"), ("format:", "t"),
      ("output-duplicates", "v"), ("width::", "w"), ("traditional", "traditional"),
      ("endian:", "endian")] } : Choices).given args
  let places ←
    match chosen.value? "A" with
    | none => pure (some (8, 7))
    | some text =>
      match text.toList.head? with
      | some 'o' => pure (some (8, 7))
      | some 'd' => pure (some (10, 7))
      | some 'x' => pure (some (16, 6))
      | some 'n' => pure none
      | c =>
        giveUp 1 ("invalid output address radix '" ++ String.ofList c.toList ++
          "'; it must be one character from [doxn]")
  let skip ← match chosen.value? "j" with | some text => amount "j" text | none => pure 0
  let most ← match chosen.value? "N" with
    | some text => some <$> amount "N" text
    | none => pure none
  let mut kinds : List DumpKind := []
  for (option, value) in chosen.reverse do
    if option == "t" then kinds := kinds ++ (← kindsOf value (value.length + 1) value.toList)
    else kinds := kinds ++ (ofLetter? option).toList
  if kinds.isEmpty then kinds := [{ form := .number 8, size := 2 }]
  let unit := (kinds.map (·.size)).foldl max 1
  let perRow ←
    match chosen.value? "w" with
    | none => pure (max 16 unit)
    | some "" => pure 32
    | some text => do
      let n ← amount "w" text
      if n = 0 || n % unit != 0 then
        complain ("warning: invalid width " ++ toString n ++ "; using " ++ toString unit ++ " instead")
        pure unit
      else pure n
  let d : Dumping :=
    { kinds, places, perRow, short := !chosen.has "v"
      bigFirst := (chosen.value? "endian").any (·.startsWith "b") }
  let isPlain := ["A", "j", "N", "t", "v", "w"].all fun o => !chosen.has o
  let (paths, skip) :=
    match operands with
    | [a] =>
      if isPlain && a.startsWith "+" then
        match placeOperand? a with
        | some n => ([], n)
        | none => (operands, skip)
      else (operands, skip)
    | [a, b] =>
      let isPlace := match b.toList with | '+' :: _ => true | c :: _ => c.isDigit | [] => false
      if isPlain && isPlace then
        match placeOperand? b with
        | some n => ([a], n)
        | none => (operands, skip)
      else (operands, skip)
    | _ => (operands, skip)
  let mut octets : List Nat := []
  let mut status := 0
  for path in if paths.isEmpty then ["-"] else paths do
    match ← contentOf path with
    | .text s => octets := octets ++ s.toList.map (·.toNat)
    | .notOpened e | .notRead e => do
      complainOf (nameOf path) e
      status := 1
  if octets.length < skip then
    if status != 0 then return status
    giveUp 1 "cannot skip past end of combined input"
  let shown := octets.drop skip
  let shown := match most with | some n => shown.take n | none => shown
  if shown.isEmpty && status != 0 then return status
  d.tell skip none false (piecesOf perRow (shown.length + 1) shown)
  if d.places.isSome then sayLine (d.placeText (skip + shown.length))
  return status

end Ensemble.Utility
