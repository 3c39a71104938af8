import Ensemble.Shell.Layout
import Ensemble.Text.Calendar
import Ensemble.Utility.Mode
import Ensemble.Utility.Names
import Ensemble.Utility.Printing
import Ensemble.Utility.Question

/-!
# Ensemble.Utility.Describing

Telling **what is known of files**: `stat`. A format holds conversions, which are laid out like those of
formatted output.
-/

namespace Ensemble.Utility

open Shell (Layout)

namespace Describing

/-- The size of a block of a file, and the one in which files are best read. -/
def blockUnit : Nat := 512

def bestUnit : Nat := 4096

/-- The blocks of a file. -/
def blocksOf (s : Status) : Nat :=
  match s.kind with
  | .file => (s.size + bestUnit - 1) / bestUnit * (bestUnit / blockUnit)
  | .directory => bestUnit / blockUnit
  | _ => 0

/-- The mode with the bits of the kind. -/
def fullMode (s : Status) : Nat :=
  let kind :=
    match s.kind with
    | .file => 0o100000
    | .directory => 0o040000
    | .link => 0o120000
    | .device => 0o020000
    | .queue => 0o010000
  kind + s.mode % 4096

/-- A time in full. -/
def timeText (t : Int) : String :=
  Text.Calendar.formatted (t / 1000000) (t % 1000000).toNat "%Y-%m-%d %H:%M:%S.%N %z"

/-- A number in octal or hexadecimal digits. -/
def inBase (base n : Nat) : String :=
  .ofList (Nat.toDigits base n)

/-- A number, laid out; zeros count only if no precision is given. -/
def numberText (l : Layout) (digits : String) : String :=
  l.whole "" digits

/-- A number of seconds with so many places of the part behind the point. -/
def secondsText (l : Layout) (hasPoint : Bool) (t : Int) : String :=
  let seconds := toString (t / 1000000)
  if !hasPoint then { l with precision := none }.digits "" seconds
  else
    let places := (l.precision.getD 9)
    let micros := toString (t % 1000000)
    let digits := (List.replicate (6 - micros.length) '0' ++ micros.toList ++ List.replicate places '0')
    { l with precision := none }.digits ""
      (if places = 0 then seconds else seconds ++ "." ++ String.ofList (digits.take places))

/-- The numbers of a device. -/
def deviceNumbers (path : String) : Nat × Nat :=
  let devices : List (String × Nat × Nat) :=
    [("/dev/null", 1, 3), ("/dev/zero", 1, 5), ("/dev/full", 1, 7), ("/dev/random", 1, 8),
      ("/dev/urandom", 1, 9)]
  (devices.lookup path).getD (5, 0)

/-- The text of a conversion for a file. -/
def conversion (path : String) (target : Option String) (s : Status) (hasPoint : Bool) (l : Layout)
    (c : Char) : String :=
  let number (n : Nat) : String := numberText l (toString n)
  match c with
  | 'n' => l.text path
  | 'N' =>
    l.text (shellQuoted path ++ match target with | some t => " -> " ++ shellQuoted t | none => "")
  | 'a' => numberText l ((if l.alternate then "0" else "") ++ inBase 8 (s.mode % 4096))
  | 'A' => l.text ((kindLetter s.kind).toString ++ modeLetters s.mode)
  | 'b' => number (blocksOf s)
  | 'B' => number blockUnit
  | 'd' | 'D' => number 1
  | 'f' => numberText l (inBase 16 (fullMode s))
  | 'F' => l.text (kindText s)
  | 'g' | 'u' => number 0
  | 'G' | 'U' => l.text "root"
  | 'h' => number s.links
  | 'i' => number s.number
  | 'm' => l.text "/"
  | 'o' => number bestUnit
  | 's' => number s.size
  | 't' | 'T' =>
    let (great, small) := if s.kind == .device then deviceNumbers path else (0, 0)
    numberText l (inBase 16 (if c == 't' then great else small))
  | 'w' | 'x' | 'y' | 'z' => l.text (timeText s.time)
  | 'W' | 'X' | 'Y' | 'Z' => secondsText l hasPoint s.time
  | _ => l.text "?"

/-- Tell a file by a format. -/
def tell (path : String) (target : Option String) (s : Status) (withEscapes : Bool) :
    Nat → List Char → Tool Unit
  | 0, _ => pure ()
  | _, [] => pure ()
  | fuel + 1, '%' :: cs => do
    let isFlag (c : Char) : Bool := ['\x27', '-', '+', ' ', '0', '#'].contains c
    let flags := cs.takeWhile isFlag
    let (l, _) := Layout.flags (flags.filter (· != '\x27')) {}
    let cs := cs.drop flags.length
    let width := cs.takeWhile Char.isDigit
    let cs := cs.drop width.length
    let (hasPoint, places, cs) :=
      match cs with
      | '.' :: cs =>
        let places := cs.takeWhile Char.isDigit
        (true, places, cs.drop places.length)
      | cs => (false, [], cs)
    let precision : Option Nat :=
      if places.isEmpty then none else some (Shell.Numeral.digits 10 places).1
    let l : Layout := { l with width := (Shell.Numeral.digits 10 width).1, precision }
    match cs with
    | [] =>
      if flags.isEmpty && width.isEmpty && !hasPoint then say "%"
      else
        giveUp 1 ("'%" ++ .ofList (flags ++ width ++ (if hasPoint then ['.'] else []) ++ places) ++
          "': invalid directive")
    | '%' :: cs => do
      say "%"
      tell path target s withEscapes fuel cs
    | c :: cs => do
      say (conversion path target s hasPoint l c)
      tell path target s withEscapes fuel cs
  | fuel + 1, '\x5c' :: cs => do
    if withEscapes then
      match cs with
      | [] => do
        complain "warning: backslash at end of format"
        say "\\"
      | 'x' :: c :: rest => do
        if isHexDigit c then
          let (n, rest) := hexNumber 2 (c :: rest)
          say (Char.ofNat n).toString
          tell path target s withEscapes fuel rest
        else
          complain "warning: unrecognized escape '\\x'"
          say "x"
          tell path target s withEscapes fuel (c :: rest)
      | c :: rest => do
        if Shell.Format.isOctal c then
          let digits := (cs.take 3).takeWhile Shell.Format.isOctal
          say (Char.ofNat ((Shell.Numeral.digits 8 digits).1 % 256)).toString
          tell path target s withEscapes fuel (cs.drop digits.length)
        else
          match Shell.Format.escape? c with
          | some e => say e.toString
          | none =>
            if c == '"' || c == '\x5c' then say c.toString
            else if c == 'e' then say "\x1b"
            else do
              complain ("warning: unrecognized escape '\\" ++ c.toString ++ "'")
              say c.toString
          tell path target s withEscapes fuel rest
    else
      say "\\"
      tell path target s withEscapes fuel cs
  | fuel + 1, c :: cs => do
    let plain := cs.takeWhile fun d => d != '%' && d != '\x5c'
    say (.ofList (c :: plain))
    tell path target s withEscapes fuel (cs.drop plain.length)

/-- What is told if no format is given. -/
def longFormat : String :=
  "  File: %N\n  Size: %-10s\tBlocks: %-10b IO Block: %-6o %F\n" ++
    "Device: 0,1\tInode: %-11i Links: %h\n" ++
    "Access: (%04a/%10.10A)  Uid: (%5u/%8U)   Gid: (%5g/%8G)\n" ++
    "Access: %x\nModify: %y\nChange: %z\n Birth: %w\n"

def shortFormat : String :=
  "%n %s %b %f %u %g %D %i %h %t %T %X %Y %Z %W %o\n"

end Describing

open Describing in
def stat (args : List String) : Tool Nat := do
  let (chosen, operands) ← ({
    letters := "c:fLt"
    words := [("dereference", "L"), ("file-system", "f"), ("format:", "c"), ("printf:", "printf"),
      ("terse", "t"), ("cached:", "cached")] } : Choices).given args
  if operands.isEmpty then misused "missing operand"
  let format := chosen.last? ["c", "printf"]
  let (text, withEscapes) : String × Bool :=
    match format with
    | some "c" => ((chosen.value? "c").getD "", false)
    | some _ => ((chosen.value? "printf").getD "", true)
    | none => (if chosen.has "t" then shortFormat else longFormat, false)
  forEach operands fun path => do
    let found ← if path = "-" then ask (.descriptorStatus 0) else ask (.status path (chosen.has "L"))
    match found with
    | .error e => do
      complainOf ("cannot statx " ++ shellQuoted path) e
      return 1
    | .ok s => do
      let target ←
        if s.kind == .link then pure (← ask (.readLink path)).toOption else pure none
      tell path target s withEscapes (text.length + 1) text.toList
      if format == some "c" then say "\n"
      return 0

end Ensemble.Utility
