import Ensemble.Shell.Format
import Ensemble.Text.Regex.Reader
import Ensemble.Utility.Amount
import Ensemble.Utility.Input

/-!
# Ensemble.Utility.Characters

Utilities that work on **single characters**: `tr` exchanges, takes out and squeezes them, and `cut`
takes those that stand at certain places or in certain fields.
-/

namespace Ensemble.Utility

/-! ### Sets -/

/-- What stands for characters in a set. -/
inductive SetPart
  | chars (cs : List Char)
  | kind (name : String) (cs : List Char)
  | alike (c : Char)
  /-- A character so many times; none if as often as the other set asks for. -/
  | again (c : Char) (count : Option Nat)

/-- A character of a set, and whether it was written with a backslash. -/
abbrev SetChar := Char × Bool

/-- All characters. -/
def allChars : List Char :=
  (List.range 256).map Char.ofNat

/-- The characters of a set, with their escapes replaced. -/
def setChars : Nat → List Char → Tool (List SetChar)
  | 0, _ => return []
  | _, [] => return []
  | fuel + 1, '\x5c' :: cs => do
    match cs with
    | [] => do
      complain "warning: an unescaped backslash at end of string is not portable"
      return [('\x5c', false)]
    | c :: rest =>
      if Shell.Format.isOctal c then
        let three := (cs.takeWhile Shell.Format.isOctal).take 3
        let n := (Shell.Numeral.digits 8 three).1
        let digits := if n < 256 then three else three.take 2
        let octal (ds : List Char) : String :=
          .ofList (List.replicate (3 - ds.length) '0' ++ ds)
        if 256 ≤ n then
          complain ("warning: the ambiguous octal escape \\" ++ .ofList three ++ " is being\n\t" ++
            "interpreted as the 2-byte sequence \\" ++ octal digits ++ ", " ++ .ofList (three.drop 2))
        return (Char.ofNat (Shell.Numeral.digits 8 digits).1, true) ::
          (← setChars fuel (cs.drop digits.length))
      else
        let e := if c == 'e' then c else (Shell.Format.escape? c).getD c
        return (e, true) :: (← setChars fuel rest)
  | fuel + 1, c :: cs => return (c, false) :: (← setChars fuel cs)

/-- The characters between a mark and its closing, as in `[:name:]`, and what follows. -/
def markedName (mark : Char) : List SetChar → Option (List Char × List SetChar)
  | (c, false) :: (']', false) :: rest =>
    if c == mark then some ([], rest)
    else (markedName mark ((']', false) :: rest)).map fun (name, rest) => (c :: name, rest)
  | (c, _) :: rest => (markedName mark rest).map fun (name, rest) => (c :: name, rest)
  | [] => none

/-- A character repeated, as in `[x*3]`, and what follows. -/
def repetition? (cs : List SetChar) : Option (Except String SetPart × List SetChar) :=
  match cs with
  | (c, _) :: ('*', false) :: rest =>
    let inside := rest.takeWhile fun (d, escaped) => d != ']' || escaped
    match rest.drop inside.length with
    | _ :: rest =>
      let digits := inside.map (·.1)
      let base := if digits.head? == some '0' then 8 else 10
      if digits.isEmpty then some (.ok (.again c none), rest)
      else
        let (n, left) := Shell.Numeral.digits base digits
        if left.isEmpty then some (.ok (.again c (if n = 0 then none else some n)), rest)
        else some (.error ("invalid repeat count " ++ quoted (.ofList digits) ++
          " in [c*n] construct"), rest)
    | [] => none
  | _ => none

/-- How a character is told in a message. -/
def setCharText (c : Char) : String :=
  if isPrintable c && c != '\x5c' then c.toString
  else
    let digits := Nat.toDigits 8 c.toNat
    if c == '\x5c' then "\\\\" else "\\" ++ .ofList (List.replicate (3 - digits.length) '0' ++ digits)

/-- The parts of a set that begins with a character, unless that begins a class. -/
def ordinaryParts (others : List SetChar → Tool (List SetPart)) (c : Char) (cs : List SetChar)
    (bracket : Bool) : Tool (List SetPart) := do
  match if bracket then repetition? cs else none with
  | some (.ok part, rest) => return part :: (← others rest)
  | some (.error told, _) => giveUp 1 told
  | none =>
    match cs with
    | ('-', false) :: (d, _) :: rest =>
      if d < c then
        giveUp 1 ("range-endpoints of '" ++ setCharText c ++ "-" ++ setCharText d ++
          "' are in reverse collating sequence order")
      else
        return .chars (allChars.filter fun x => decide (c ≤ x) && decide (x ≤ d)) ::
          (← others rest)
    | _ => return .chars [c] :: (← others cs)

/-- The parts of a set. -/
def setParts : Nat → List SetChar → Tool (List SetPart)
  | 0, _ => return []
  | _, [] => return []
  | fuel + 1, (c, escaped) :: cs => do
    let bracket := c == '[' && !escaped
    match cs with
    | (':', false) :: rest =>
      if bracket then
        match markedName ':' rest with
        | some (name, after) =>
          let name := String.ofList name
          if name = "" then giveUp 1 "missing character class name '[::]'"
          match Text.Regex.ofClass? name with
          | some accepts => return .kind name (allChars.filter accepts) :: (← setParts fuel after)
          | none =>
            match repetition? cs with
            | some _ => ordinaryParts (setParts fuel) c cs bracket
            | none => giveUp 1 ("invalid character class " ++ quoted name)
        | none => ordinaryParts (setParts fuel) c cs bracket
      else ordinaryParts (setParts fuel) c cs bracket
    | ('=', false) :: rest =>
      if bracket then
        match markedName '=' rest with
        | some ([e], after) => return .alike e :: (← setParts fuel after)
        | some ([], _) => giveUp 1 "missing equivalence class character '[==]'"
        | some (name, _) =>
          match repetition? cs with
          | some _ => ordinaryParts (setParts fuel) c cs bracket
          | none =>
            giveUp 1 (.ofList name ++ ": equivalence class operand must be a single character")
        | none => ordinaryParts (setParts fuel) c cs bracket
      else ordinaryParts (setParts fuel) c cs bracket
    | _ => ordinaryParts (setParts fuel) c cs bracket

/-- The parts of a set that a text stands for. -/
def readSet (s : String) : Tool (List SetPart) := do
  let cs ← setChars (s.length + 1) s.toList
  setParts (s.length + 1) cs

namespace SetPart

/-- The characters of a part, one repeated to fill up so many places. -/
def expand (fill : Nat) : SetPart → List Char
  | .chars cs | .kind _ cs => cs
  | .alike c => [c]
  | .again c (some n) => List.replicate n c
  | .again c none => List.replicate fill c

def isOpenEnded : SetPart → Bool
  | .again _ none => true
  | _ => false

def isAgain : SetPart → Bool
  | .again .. => true
  | _ => false

/-- Does the part stand for a change of case in the second set? -/
def isCase : SetPart → Bool
  | .kind name _ => name == "upper" || name == "lower"
  | _ => false

def isKind : SetPart → Bool
  | .kind .. => true
  | _ => false

def isAlike : SetPart → Bool
  | .alike _ => true
  | _ => false

end SetPart

/-- The characters of a set, filled up to a length where it can be. -/
def expandSet (parts : List SetPart) (length : Nat) : List Char :=
  let fixed := (parts.flatMap (·.expand 0)).length
  parts.flatMap (·.expand (length - fixed))

/-! ### Exchanging -/

/-- What becomes of characters. -/
structure Exchange where
  image : Char → Char := id
  drops : Char → Bool := fun _ => false
  squeezes : Char → Bool := fun _ => false

/-- What becomes of a piece of text, given the last character that was written. -/
def Exchange.piece (x : Exchange) (last : Option Char) (text : String) : Option Char × String :=
  let (last, out) := text.toList.foldl (fun (last, out) c =>
    if x.drops c then (last, out)
    else
      let d := x.image c
      if last == some d && x.squeezes d then (last, out) else (some d, d :: out)) (last, ([] : List Char))
  (last, .ofList out.reverse)

/-- Write what becomes of the input. -/
def exchangeAll (x : Exchange) : Nat → Option Char → Tool Unit
  | 0, _ => return ()
  | fuel + 1, last => do
    match ← ask (.read 0 inputBlock) with
    | .error e => giveUp 1 ("read error: " ++ e.message)
    | .ok "" => return ()
    | .ok text => do
      let (last, out) := x.piece last text
      say out
      exchangeAll x fuel last

/-- Where in a set a change of case stands: the number of characters before it. -/
def caseOffsets (parts : List SetPart) (fill : Nat) : List (Nat × String) :=
  let (_, found) := parts.foldl (fun (n, found) p =>
    let found := match p with
      | .kind name _ => if p.isCase then (n, name) :: found else found
      | _ => found
    (n + (p.expand fill).length, found)) (0, ([] : List (Nat × String)))
  found.reverse

/-- What two sets exchange. -/
def exchangeOf (complement truncates : Bool) (first second : List SetPart) : Tool (List (Char × Char)) := do
  if second.any (·.isAlike) then
    giveUp 1 "[=c=] expressions may not appear in string2 when translating"
  if 1 < (second.filter (·.isOpenEnded)).length then
    giveUp 1 "only one [c*] repeat construct may appear in string2"
  if second.any fun p => p.isKind && !p.isCase then
    giveUp 1 ("when translating, the only character classes that may appear in\n" ++
      "string2 are 'upper' and 'lower'")
  let sources := if complement then
      let cs := first.flatMap (·.expand 1)
      allChars.filter (!cs.contains ·)
    else first.flatMap (·.expand 1)
  let targets := expandSet second sources.length
  if complement then
    if first.any (·.isKind) && !(targets.eraseDups.length = 1 && sources.length ≤ targets.length) then
      if 1 < targets.eraseDups.length then
        giveUp 1 ("when translating with complemented character classes,\n" ++
          "string2 must map all characters in the domain to one")
  let fill := sources.length - (second.flatMap (·.expand 0)).length
  let cases := caseOffsets second fill
  let ours := caseOffsets first 1
  if cases.any fun (n, _) => !(ours.any fun (m, _) => n = m) then
    giveUp 1 "misaligned [:upper:] and/or [:lower:] construct"
  if targets.isEmpty then
    if truncates then return []
    giveUp 1 "when not truncating set1, string2 must be non-empty"
  if !complement && !truncates && targets.length < sources.length && (second.getLast?).any (·.isCase) then
    giveUp 1 "when translating with string1 longer than string2,\nthe latter string must not end with a character class"
  let last := targets.getLast?.getD ' '
  let targets := if truncates then targets
    else targets ++ List.replicate (sources.length - targets.length) last
  return sources.zip targets

def tr (args : List String) : Tool Nat := do
  let (chosen, operands) ← ({
    letters := "AcCdst", leading := true
    words := [("complement", "c"), ("delete", "d"), ("squeeze-repeats", "s"), ("truncate-set1", "t")] } :
    Choices).given args
  let complement := chosen.has "c" || chosen.has "C"
  let deletes := chosen.has "d"
  let squeezes := chosen.has "s"
  let least := if deletes == squeezes then 2 else 1
  let most := if deletes && !squeezes then 1 else 2
  match operands with
  | [] => misused "missing operand"
  | [only] =>
    if least = 2 then
      complain ("missing operand after " ++ quoted only)
      sayError (if squeezes then "Two strings must be given when both deleting and squeezing repeats.\n"
        else "Two strings must be given when translating.\n")
      misuse
  | _ => pure ()
  match operands.drop most with
  | extra :: _ => do
    complain ("extra operand " ++ quoted extra)
    if operands.length = 2 then
      sayError "Only one string may be given when deleting without squeezing repeats.\n"
    misuse
  | [] => pure ()
  let first ← readSet (operands.headD "")
  let second ← match operands with
    | _ :: s :: _ => readSet s
    | _ => pure []
  if first.any (·.isOpenEnded) then
    giveUp 1 "the [c*] repeat construct may not appear in string1"
  let set (parts : List SetPart) (complement : Bool) : Char → Bool :=
    let cs := parts.flatMap (·.expand 1)
    fun c => cs.contains c != complement
  let isIn := set first complement
  let two := 2 ≤ operands.length
  let x : Exchange ←
    if deletes && squeezes then
      pure { drops := isIn, squeezes := set second false }
    else if deletes then pure { drops := isIn }
    else if squeezes && !two then pure { squeezes := isIn }
    else do
      let pairs ← exchangeOf complement (chosen.has "t") first second
      let table : Array Char := pairs.foldl (fun t (a, b) => t.setIfInBounds a.toNat b) allChars.toArray
      let targets := expandSet second pairs.length
      pure {
        image := fun c => table.getD c.toNat c
        squeezes := if squeezes then targets.contains else fun _ => false }
  exchangeAll x readLimit none
  return 0

/-! ### Cutting -/

/-- Places in a line: from one to another, or to the end. -/
abbrev Places := List (Nat × Option Nat)

namespace Places

/-- Does a place begin with this number? -/
def startsAt (places : Places) (n : Nat) : Bool :=
  places.any fun (low, _) => low == n

/-- Is a number in one of these places? -/
def has (places : Places) (n : Nat) : Bool :=
  places.any fun (low, high) => decide (low ≤ n) && high.all (decide <| n ≤ ·)

/-- Places in order, in which those that overlap are one. -/
def merge : Places → Places
  | [] => []
  | place :: places =>
    match merge places with
    | [] => [place]
    | (low, high) :: rest =>
      if place.2.all (decide <| low ≤ ·) then
        (place.1, do return max (← place.2) (← high)) :: rest
      else place :: (low, high) :: rest

/-- The places between these, given the first number that is free. -/
def between : Nat → Places → Places
  | free, [] => [(free, none)]
  | free, (low, high) :: places =>
    (if free < low then [(free, some (low - 1))] else []) ++
      (match high with | some h => between (h + 1) places | none => [])

/-- Places in their normal order, or what is left of a line by them. -/
def settle (places : Places) (complement : Bool) : Places :=
  let sorted := merge (places.mergeSort fun a b => decide (a.1 ≤ b.1))
  if complement then between 1 sorted else sorted

end Places

/-- How `cut` takes lines apart. -/
structure Cutting where
  places : Places
  /-- The character between fields; none if single characters are counted. -/
  separator : Option Char
  /-- Are lines without a separator left out? -/
  onlySeparated : Bool
  joint : String
  stop : Char

namespace Cutting

/-- The characters that are wanted, with a joint between pieces that come from different places. -/
def characters (c : Cutting) (line : List Char) : List Char :=
  let kept := (line.zipIdx 1).filter fun (_, n) => c.places.has n
  match kept with
  | [] => []
  | (first, _) :: kept =>
    first :: kept.flatMap fun (ch, n) =>
      (if c.places.startsAt n then c.joint.toList else []) ++ [ch]

/-- What is left of a line; none if the line is left out. -/
def line (c : Cutting) (line : List Char) : Option (List Char) :=
  match c.separator with
  | none => some (c.characters line)
  | some s =>
    if !line.contains s then if c.onlySeparated then none else some line
    else
      let (f, fs) := Text.cutBetween s line
      let kept := ((f :: fs).zipIdx 1).filter fun (_, n) => c.places.has n
      some (c.joint.toList.intercalate (kept.map (·.1)))

end Cutting

/-- What is wrong with a list of places. -/
inductive PlaceFault
  | range
  | endless
  | decreasing
  | zero
  | tooLarge (digits : String)
  | unknown (rest : String)

/-- The words for a fault. -/
def PlaceFault.message (byFields : Bool) : PlaceFault → String
  | .range => if byFields then "invalid field range" else "invalid byte or character range"
  | .endless => "invalid range with no endpoint: -"
  | .decreasing => "invalid decreasing range"
  | .zero =>
    if byFields then "fields are numbered from 1" else "byte/character positions are numbered from 1"
  | .tooLarge digits =>
    (if byFields then "field number " else "byte/character offset ") ++ quoted digits ++ " is too large"
  | .unknown rest =>
    (if byFields then "invalid field value " else "invalid byte/character position ") ++ quoted rest

/-- A place that is being read: the digits before and behind the dash, and whether there is one. -/
structure PlaceReading where
  low : List Char := []
  high : List Char := []
  dashed : Bool := false

namespace PlaceReading

/-- The place that has been read. -/
def done (r : PlaceReading) : Except PlaceFault (Nat × Option Nat) := do
  let number (ds : List Char) : Nat := (Shell.Numeral.digits 10 ds).1
  if !r.dashed then
    if number r.low = 0 then throw .zero
    return (number r.low, some (number r.low))
  if r.low.isEmpty && r.high.isEmpty then throw .endless
  let low := if r.low.isEmpty then 1 else number r.low
  if r.high.isEmpty then return (low, none)
  if number r.high < low then throw .decreasing
  return (low, some (number r.high))

/-- Read places up to the end of a list. -/
def read : PlaceReading → List Char → Except PlaceFault Places
  | r, [] => do return [← r.done]
  | r, c :: cs => do
    let isTooLarge (ds : List Char) : Bool := decide (UInt64.size ≤ (Shell.Numeral.digits 10 ds).1)
    if c == '-' then
      if r.dashed then throw .range
      if !r.low.isEmpty && (Shell.Numeral.digits 10 r.low).1 = 0 then throw .zero
      read { r with dashed := true } cs
    else if c == ',' || c == ' ' || c == '\t' then
      let place ← r.done
      return place :: (← read {} cs)
    else if c.isDigit then
      let r := if r.dashed then { r with high := r.high ++ [c] } else { r with low := r.low ++ [c] }
      let ds := if r.dashed then r.high else r.low
      if isTooLarge ds then throw (.tooLarge (.ofList (ds ++ cs.takeWhile Char.isDigit)))
      read r cs
    else throw (.unknown (.ofList (c :: cs)))

end PlaceReading

/-- A list of places. -/
def placeList (byFields : Bool) (s : String) : Tool Places := do
  match PlaceReading.read {} s.toList with
  | .ok places => return places
  | .error fault => misused (fault.message byFields)

def cut (args : List String) : Tool Nat := do
  let choices : Choices := {
    letters := "b:c:d:f:nsz"
    words := [("bytes:", "b"), ("characters:", "c"), ("delimiter:", "d"), ("fields:", "f"),
      ("only-delimited", "s"), ("output-delimiter:", "joint"), ("complement", "complement"),
      ("zero-terminated", "z")] }
  let (chosen, operands) ← choices.fold args ([] : List (String × String)) fun chosen name value => do
    let v := value.getD ""
    if ["b", "c", "f"].contains name && chosen.any (fun (n, _) => ["b", "c", "f"].contains n) then
      misused "only one list may be specified"
    if name = "d" && 1 < v.length then misused "the delimiter must be a single character"
    return (name, v) :: chosen
  let chosen : Chosen := chosen
  match chosen.last? ["b", "c", "f"] with
  | none => misused "you must specify a list of bytes, characters, or fields"
  | some kind => do
    let byFields := kind == "f"
    if !byFields && chosen.has "d" then
      misused "an input delimiter may be specified only when operating on fields"
    if !byFields && chosen.has "s" then
      misused "suppressing non-delimited lines makes sense\n\tonly when operating on fields"
    let places ← placeList byFields ((chosen.value? kind).getD "")
    let separator := ((chosen.value? "d").getD "\t").toList.headD '\x00'
    let c : Cutting := {
      places := places.settle (chosen.has "complement")
      separator := if byFields then some separator else none
      onlySeparated := chosen.has "s"
      joint := (chosen.value? "joint").getD (if byFields then separator.toString else "")
      stop := if chosen.has "z" then '\x00' else '\n' }
    let paths := if operands.isEmpty then ["-"] else operands
    forEach paths fun path => do
      match ← openInput path with
      | .error e => do
        complainOf (nameOf path) e
        return 1
      | .ok fd => do
        let result ← foldPieces fd c.stop (fun () lines => do
          say (String.join (lines.filterMap fun l =>
            (c.line (bare c.stop l)).map fun cs => .ofList (cs ++ [c.stop])))
          return ((), false)) readLimit [] ()
        closeInput fd
        match result with
        | .ok () => return 0
        | .error e => do
          complainOf (nameOf path) e
          return 1

end Ensemble.Utility
