import Ensemble.Utility.Amount
import Ensemble.Utility.Input

/-!
# Ensemble.Utility.Transfer

Copying **block by block**: `dd`. An input is read in blocks, which are converted and written in blocks
of another size, or as they come; at the end the blocks are counted.
-/

namespace Ensemble.Utility

/-- What a transfer is about. -/
structure Transfer where
  source : Option String := none
  target : Option String := none
  inputSize : Nat := 512
  outputSize : Nat := 512
  /-- Are blocks written as they are read? -/
  direct : Bool := false
  /-- The length of records. -/
  record : Nat := 0
  skip : Nat := 0
  seek : Nat := 0
  count : Option Nat := none
  /-- Are these in octets, and not in blocks? -/
  skipOctets : Bool := false
  seekOctets : Bool := false
  countOctets : Bool := false
  conversions : List String := []
  inputFlags : List String := []
  outputFlags : List String := []
  level : String := ""

namespace Transfer

def converts (t : Transfer) (how : String) : Bool :=
  t.conversions.contains how

/-! ### Operands -/

def conversionNames : List String :=
  ["ascii", "ebcdic", "ibm", "block", "unblock", "lcase", "ucase", "sparse", "swab", "sync", "excl",
    "nocreat", "notrunc", "noerror", "fdatasync", "fsync"]

def flagNames : List String :=
  ["append", "direct", "directory", "dsync", "sync", "fullblock", "nonblock", "noatime", "nocache",
    "noctty", "nofollow", "count_bytes", "skip_bytes", "seek_bytes", "binary", "text"]

/-- The units that numbers can have. -/
def unit? (cs : List Char) : Option Nat :=
  match cs with
  | [] => some 1
  | ['c'] | ['B'] => some 1
  | ['w'] => some 2
  | ['b'] => some 512
  | cs => unitOf? (.ofList cs)

/-- The factors of a number that have an `x` between them. -/
def factors (text : String) : List (List Char) :=
  let (first, more) := Text.cutBetween 'x' text.toList
  first :: more

/-- A number, and is it one of octets? -/
def number (text : String) : Tool (Nat × Bool) := do
  let mut n := 1
  let mut inOctets := false
  for factor in factors text do
    let (digits, rest) := Shell.Numeral.digits 10 factor
    let isNumber := rest.length < factor.length
    match unit? rest with
    | some unit =>
      if !isNumber then giveUp 1 ("invalid number: " ++ shellQuoted text)
      n := n * digits * unit
      if rest.getLast? == some 'B' then inOctets := true
    | none => giveUp 1 ("invalid number: " ++ shellQuoted text)
  if Nat.pow 2 63 ≤ n then
    giveUp 1 ("invalid number: " ++ shellQuoted text ++ ": Value too large for defined data type")
  return (n, inOctets)

/-- A size of blocks. -/
def size (text : String) : Tool Nat := do
  let (n, _) ← number text
  if n = 0 then giveUp 1 ("invalid number: " ++ shellQuoted text)
  return n

/-- The words of a list, each of which must be known. -/
def wordsIn (known : List String) (told text : String) : Tool (List String) := do
  let (first, more) := Text.cutBetween ',' text.toList
  let words := (first :: more).map String.ofList
  match words.find? fun w => !known.contains w with
  | some w => misused (told ++ ": " ++ shellQuoted w)
  | none => return words

/-- Take an operand. -/
def taken (t : Transfer) (operand : String) : Tool Transfer := do
  match Text.splitFirst '=' operand.toList with
  | none => misused ("unrecognized operand " ++ shellQuoted operand)
  | some (name, value) => do
    let value := String.ofList value
    match String.ofList name with
    | "if" => return { t with source := some value }
    | "of" => return { t with target := some value }
    | "ibs" => return { t with inputSize := ← size value }
    | "obs" => return { t with outputSize := ← size value }
    | "bs" => do
      let n ← size value
      return { t with inputSize := n, outputSize := n, direct := true }
    | "cbs" => return { t with record := ← size value }
    | "skip" | "iseek" => do
      let (skip, inOctets) ← number value
      return { t with skip, skipOctets := t.skipOctets || inOctets }
    | "seek" | "oseek" => do
      let (seek, inOctets) ← number value
      return { t with seek, seekOctets := t.seekOctets || inOctets }
    | "count" => do
      let (n, inOctets) ← number value
      return { t with count := some n, countOctets := t.countOctets || inOctets }
    | "conv" => return { t with
        conversions := t.conversions ++ (← wordsIn conversionNames "invalid conversion" value) }
    | "iflag" => return { t with
        inputFlags := t.inputFlags ++ (← wordsIn flagNames "invalid input flag" value) }
    | "oflag" => return { t with
        outputFlags := t.outputFlags ++ (← wordsIn flagNames "invalid output flag" value) }
    | "status" => do
      if !(["none", "noxfer", "progress"].contains value) then
        misused ("invalid status level: " ++ shellQuoted value)
      return { t with level := value }
    | _ => misused ("unrecognized operand " ++ shellQuoted operand)

/-! ### Conversions -/

/-- Two octets each changed for one another. -/
def swapped : List Char → List Char
  | a :: b :: cs => b :: a :: swapped cs
  | cs => cs

/-- What a block becomes. -/
def converted (t : Transfer) (block : List Char) : List Char :=
  let block :=
    if t.converts "lcase" then block.map Char.toLower
    else if t.converts "ucase" then block.map Char.toUpper
    else block
  if t.converts "swab" then swapped block else block

/-- Lines that become records of one length, and how many of them are cut. -/
def recordsOf (t : Transfer) (text : List Char) : List Char × Nat :=
  let lines := (Text.cutAfter '\n' text).map (bare '\n')
  let record (line : List Char) : List Char :=
    line.take t.record ++ List.replicate (t.record - line.length) ' '
  (lines.flatMap record, (lines.filter fun l => t.record < l.length).length)

/-- Records that become lines. -/
def linesOfRecords (size : Nat) : Nat → List Char → List Char
  | 0, _ => []
  | _, [] => []
  | fuel + 1, cs =>
    let record := cs.take size
    (record.reverse.dropWhile (· == ' ')).reverse ++ '\n' :: linesOfRecords size fuel (cs.drop size)

/-! ### Transferring -/

/-- What has been read and written: whole and partial blocks. -/
structure Count where
  inWhole : Nat := 0
  inPart : Nat := 0
  outWhole : Nat := 0
  outPart : Nat := 0
  octets : Nat := 0
  cut : Nat := 0
  status : Nat := 0

/-- Read a block; if whole blocks are wanted, as long as one is not full. -/
def readBlock (t : Transfer) (want : Nat) : Nat → List Char → Tool (Except MachineFault (List Char))
  | 0, held => return .ok held
  | fuel + 1, held => do
    match ← ask (.read 0 (want - held.length)) with
    | .error e => return .error e
    | .ok "" => return .ok held
    | .ok piece =>
      let held := held ++ piece.toList
      if held.length < want && t.inputFlags.contains "fullblock" then readBlock t want fuel held
      else return .ok held

/-- Write octets in blocks of the size for output; what is left is the answer. -/
def writeBlocks (t : Transfer) : Nat → List Char → Count → Tool (List Char × Count)
  | 0, held, n => return (held, n)
  | fuel + 1, held, n => do
    if held.length < t.outputSize then return (held, n)
    let block := String.ofList (held.take t.outputSize)
    passOn block
    writeBlocks t fuel (held.drop t.outputSize)
      { n with outWhole := n.outWhole + 1, octets := n.octets + block.length }

/-- Write a block that may not be full. -/
def writeRest (t : Transfer) (block : List Char) (n : Count) : Tool Count := do
  if block.isEmpty then return n
  passOn (.ofList block)
  let n := { n with octets := n.octets + block.length }
  return if block.length = t.outputSize then { n with outWhole := n.outWhole + 1 }
    else { n with outPart := n.outPart + 1 }

/-- The reading and writing of blocks, given how many may still be read, and what is held back. -/
def run (t : Transfer) : Nat → Option Nat → List Char → List Char → Count → Tool Count
  | 0, _, _, _, n => return n
  | fuel + 1, left, held, raw, n => do
    ask .tick
    let want :=
      match left with
      | some l => if t.countOctets then min l t.inputSize else if l = 0 then 0 else t.inputSize
      | none => t.inputSize
    let isByRecords := t.converts "block" || t.converts "unblock"
    let finish (n : Count) : Tool Count := do
      let (rest, n) :=
        if t.converts "block" && 0 < t.record then
          let (records, cut) := t.recordsOf raw
          (held ++ records, { n with cut })
        else if t.converts "unblock" && 0 < t.record then
          (held ++ linesOfRecords t.record (raw.length + 1) raw, n)
        else (held, n)
      let (rest, n) ← t.writeBlocks (rest.length + 1) rest n
      t.writeRest rest n
    if want = 0 then finish n
    else
      match ← t.readBlock want readLimit [] with
      | .error e => do
        complain ("error reading " ++ shellQuoted (t.source.getD "standard input") ++ ": " ++ e.message)
        finish { n with status := 1 }
      | .ok [] => finish n
      | .ok block => do
        let isWhole := block.length = t.inputSize
        let n := if isWhole then { n with inWhole := n.inWhole + 1 } else { n with inPart := n.inPart + 1 }
        let left := left.map fun l => if t.countOctets then l - block.length else l - 1
        let filler := if isByRecords then ' ' else '\x00'
        let block :=
          if t.converts "sync" then block ++ List.replicate (t.inputSize - block.length) filler else block
        let block := t.converted block
        if isByRecords && 0 < t.record then run t fuel left held (raw ++ block) n
        else if t.direct && t.conversions.all fun c => !(["sync", "lcase", "ucase", "swab"].contains c) then
          let n ← t.writeRest block n
          run t fuel left held raw n
        else
          let (held, n) ← t.writeBlocks (block.length + 2) (held ++ block) n
          run t fuel left held raw n

/-- Tell how much has been transferred. -/
def tell (t : Transfer) (n : Count) (micros : Int) : Tool Unit := do
  if t.level != "none" then
    let records := toString n.inWhole ++ "+" ++ toString n.inPart ++ " records in\n" ++
      toString n.outWhole ++ "+" ++ toString n.outPart ++ " records out\n" ++
      (if n.cut = 0 then ""
      else toString n.cut ++ " truncated record" ++ (if n.cut = 1 then "\n" else "s\n"))
    sayError records
    if t.level != "noxfer" then
      let time := toString (1000000 + micros.toNat % 1000000)
      sayError (toString n.octets ++ (if n.octets = 1 then " byte" else " bytes") ++ " copied, " ++
        toString (micros.toNat / 1000000) ++ "." ++ .ofList (time.toList.drop 1) ++ " s, " ++
        toString (n.octets * 1000 / max 1 micros.toNat) ++ ".0 kB/s\n")

/-- Open the files that are named, in place of standard input and output. -/
def openFiles (t : Transfer) : Tool Unit := do
  match t.source with
  | none => pure ()
  | some path => do
    match ← ask (.openFile path { reads := true }) with
    | .error e => giveUp 1 ("failed to open " ++ shellQuoted path ++ ": " ++ e.message)
    | .ok fd => do
      let _ ← ask (.duplicate fd 0)
      let _ ← ask (.close fd)
  match t.target with
  | none => pure ()
  | some path => do
    let start := t.seek * (if t.seekOctets then 1 else t.outputSize)
    let truncate := !t.converts "notrunc" && start = 0
    match ← ask (.openFile path {
        writes := true, create := !t.converts "nocreat", fresh := t.converts "excl", truncate
        append := t.outputFlags.contains "append" }) with
    | .error e => giveUp 1 ("failed to open " ++ shellQuoted path ++ ": " ++ e.message)
    | .ok fd => do
      let _ ← ask (.duplicate fd 1)
      let _ ← ask (.close fd)
      if start != 0 && !t.converts "notrunc" then
        let _ ← ask (.setSize 1 start)

/-- Pass over what stands before the first block that is wanted; is it there? -/
def passOver (t : Transfer) (octets : Nat) : Nat → Tool Bool
  | 0 => return false
  | fuel + 1 => do
    if octets = 0 then return true
    match ← ask (.read 0 (min octets 65536)) with
    | .error _ | .ok "" => return false
    | .ok piece => passOver t (octets - piece.length) fuel

end Transfer

open Transfer in
def dd (args : List String) : Tool Nat := do
  let (_, operands) ← ({} : Choices).given args
  let mut t : Transfer := {}
  for operand in operands do t ← t.taken operand
  if t.converts "lcase" && t.converts "ucase" then giveUp 1 "cannot combine lcase and ucase"
  if t.converts "block" && t.converts "unblock" then giveUp 1 "cannot combine block and unblock"
  if t.converts "excl" && t.converts "nocreat" then giveUp 1 "cannot combine excl and nocreat"
  t := { t with
    skipOctets := t.skipOctets || t.inputFlags.contains "skip_bytes"
    countOctets := t.countOctets || t.inputFlags.contains "count_bytes"
    seekOctets := t.seekOctets || t.outputFlags.contains "seek_bytes" }
  let began ← ask .clock
  t.openFiles
  let skipped := t.skip * (if t.skipOctets then 1 else t.inputSize)
  let isThere ← t.passOver skipped readLimit
  if !isThere then
    complain (shellQuoted (t.source.getD "standard input") ++ ": cannot skip to specified offset")
  let start := t.seek * (if t.seekOctets then 1 else t.outputSize)
  if start != 0 then
    match ← ask (.seek 1 (start : Int) .start) with
    | .ok _ => pure ()
    | .error _ =>
      passOn (.ofList (List.replicate start '\x00'))
  let n ← t.run readLimit t.count [] [] {}
  t.tell n ((← ask .clock) - began)
  return n.status

end Ensemble.Utility
