import Ensemble.Utility.Input
import Ensemble.Utility.Options
import Ensemble.Utility.Quotation

/-!
# Ensemble.Utility.Concatenation

Utilities that pass **whole inputs** on: `cat`, `tac` and `tee`.
-/

namespace Ensemble.Utility

/-! ### In order -/

/-- How lines are shown. -/
structure Showing where
  numbers : Bool := false
  /-- Are lines without anything in them not numbered? -/
  onlyFilled : Bool := false
  squeezes : Bool := false
  ends : Bool := false
  tabs : Bool := false
  marks : Bool := false

namespace Showing

/-- Is everything passed on as it is? -/
def isPlain (s : Showing) : Bool :=
  !(s.numbers || s.onlyFilled || s.squeezes || s.ends || s.tabs || s.marks)

/-- How a character is shown whose code is below 128. -/
def low (s : Showing) (c : Char) : String :=
  if c.toNat = 0x7F then "^?"
  else if c.toNat < 0x20 && (c != '\t' || s.tabs) && c != '\n' then
    "^" ++ (Char.ofNat (c.toNat + 64)).toString
  else c.toString

/-- How a character within a line is shown. -/
def character (s : Showing) (c : Char) : String :=
  if c == '\t' then (if s.tabs then "^I" else "\t")
  else if !s.marks then c.toString
  else if c.toNat < 128 then s.low c
  else "M-" ++ (
    let d := Char.ofNat (c.toNat - 128)
    if d.toNat = 0x7F then "^?"
    else if d.toNat < 0x20 then "^" ++ (Char.ofNat (d.toNat + 64)).toString
    else d.toString)

/-- A line number in its column. -/
def numberText (n : Nat) : String :=
  let digits := toString n
  .ofList (List.replicate (6 - digits.length) ' ') ++ digits ++ "\t"

/-- How far the lines have been shown. -/
structure State where
  /-- Does a line begin here? -/
  atStart : Bool := true
  /-- How many empty lines stand before. -/
  empty : Nat := 0
  number : Nat := 0
  /-- What is shown, the last first. -/
  pieces : List String := []
  /-- Is a carriage return held back, because a line may end behind it? -/
  held : Bool := false

/-- Show one character. -/
def step (s : Showing) (st : State) (c : Char) : State :=
  let st :=
    if st.held then
      { st with held := false, pieces := (if c == '\n' then "^M" else "\r") :: st.pieces }
    else st
  if c == '\n' then
    if st.atStart then
      if s.squeezes && 1 ≤ st.empty then st
      else
        let numbered := s.numbers && !s.onlyFilled
        { st with
          empty := st.empty + 1
          number := if numbered then st.number + 1 else st.number
          pieces := ((if numbered then numberText (st.number + 1) else "") ++
            (if s.ends then "$\n" else "\n")) :: st.pieces }
    else
      { st with atStart := true, empty := 0, pieces := (if s.ends then "$\n" else "\n") :: st.pieces }
  else
    let numbered := st.atStart && (s.numbers || s.onlyFilled)
    let st :=
      { st with
        atStart := false, empty := 0
        number := if numbered then st.number + 1 else st.number
        pieces := if numbered then numberText (st.number + 1) :: st.pieces else st.pieces }
    if c == '\r' && s.ends && !s.marks then { st with held := true }
    else { st with pieces := s.character c :: st.pieces }

/-- Show a piece of text. -/
def piece (s : Showing) (st : State) (text : String) : State :=
  text.toList.foldl s.step st

/-- What to show by the options. -/
def ofChosen (c : Chosen) : Showing where
  numbers := c.has "n"
  onlyFilled := c.has "b"
  squeezes := c.has "s"
  ends := c.has "A" || c.has "e" || c.has "E"
  tabs := c.has "A" || c.has "t" || c.has "T"
  marks := c.has "A" || c.has "e" || c.has "t" || c.has "v"

end Showing

/-- Pass on what is read from a descriptor. -/
def passAll (s : Showing) (fd : Nat) : Nat → Showing.State → Tool (Except MachineFault Showing.State)
  | 0, st => return .ok st
  | fuel + 1, st => do
    match ← ask (.read fd 131072) with
    | .error e => return .error e
    | .ok "" => return .ok st
    | .ok text =>
      if s.isPlain then do
        passOn text
        passAll s fd fuel st
      else do
        let st := s.piece st text
        passOn (String.join st.pieces.reverse)
        passAll s fd fuel { st with pieces := [] }

/-- Is an input the file that output goes to, and is there something in it to come? -/
def isOutput (fd : Nat) : Tool Bool := do
  match ← ask (.descriptorStatus fd), ← ask (.descriptorStatus 1) with
  | .ok input, .ok output =>
    if output.kind = .file && input.number = output.number then
      match ← ask (.seek fd 0 .here) with
      | .ok place => return decide (place < input.size)
      | .error _ => return false
    else return false
  | _, _ => return false

/-- Close a file, if it is not standard input. -/
def leave (path : String) (fd : Nat) : Tool Unit := do
  if path != "-" then
    let _ ← ask (.close fd)

/-- Pass on the files in order. -/
def catFiles (s : Showing) : List String → Showing.State → Bool → Tool Bool
  | [], st, fine => do
    if st.held then passOn "\r"
    return fine
  | path :: paths, st, fine => do
    match ← openInput path with
    | .error e => do
      complainOf (nameOf path) e
      catFiles s paths st false
    | .ok fd =>
      if ← isOutput fd then
        complain (nameOf path ++ ": input file is output file")
        leave path fd
        catFiles s paths st false
      else
        match ← passAll s fd readLimit st with
        | .ok st => do
          leave path fd
          catFiles s paths st fine
        | .error e => do
          complainOf (nameOf path) e
          leave path fd
          catFiles s paths st false

def cat (args : List String) : Tool Nat := do
  let (chosen, operands) ← ({
    letters := "benstuvAET"
    words := [("number-nonblank", "b"), ("number", "n"), ("squeeze-blank", "s"),
      ("show-nonprinting", "v"), ("show-ends", "E"), ("show-tabs", "T"), ("show-all", "A")] } :
    Choices).given args
  let paths := if operands.isEmpty then ["-"] else operands
  match ← ask (.descriptorStatus 1) with
  | .error e => giveUp 1 ("standard output: " ++ e.message)
  | .ok _ => pure ()
  let fine ← catFiles (Showing.ofChosen chosen) paths {} true
  let lost := paths.contains "-" && (← ask (.descriptorStatus 0)).toOption.isNone
  if lost then complainOf "closing standard input" .badDescriptor
  return if fine && !lost then 0 else 1

/-! ### Backwards -/

def tac (args : List String) : Tool Nat := do
  let (_, operands) ← ({} : Choices).given args
  forFiles operands fun path => do
    match ← contentOf path with
    | .text s => do
      say (String.join ((Text.cutAfter '\n' s.toList).map String.ofList).reverse)
      return 0
    | .notOpened e => do
      complainOf ("failed to open " ++ shellQuoted path ++ " for reading") e
      return 1
    | .notRead _ => do
      complainOf (nameOf path ++ ": read error") .invalid
      return 1

/-! ### In many places -/

/-- Write what is read to all of these. -/
def teeAll (fds : List (String × Nat)) : Nat → Bool → Tool Bool
  | 0, fine => return fine
  | fuel + 1, fine => do
    match ← ask (.read 0 inputBlock) with
    | .error e => do
      complainOf "read error" e
      return false
    | .ok "" => return fine
    | .ok text => do
      let mut fine := fine
      for (path, fd) in fds do
        match ← writeTo fd (text.length + 1) text with
        | none => pure ()
        | some e => do
          complainOf (nameOf path) e
          fine := false
      teeAll fds fuel fine

def tee (args : List String) : Tool Nat := do
  let (chosen, operands) ← ({
    letters := "aip", words := [("append", "a"), ("ignore-interrupts", "i")] } : Choices).given args
  let mut fds := [("standard output", 1)]
  let mut fine := true
  for path in operands do
    match ← ask (.openFile path
        { writes := true, create := true, append := chosen.has "a", truncate := !chosen.has "a" }) with
    | .ok fd => fds := fds ++ [(path, fd)]
    | .error e => do
      complainOf (nameOf path) e
      fine := false
  return if ← teeAll fds readLimit fine then 0 else 1

end Ensemble.Utility
