import Ensemble.Utility.Batching
import Ensemble.Utility.Finding.Condition

/-!
# Ensemble.Utility.Finding

**Looking for files**: `find` goes through directories with all below them and asks for each place if a
condition holds. What is done with a place is a part of the condition.
-/

namespace Ensemble.Utility

namespace Finding

/-- A place that a search has come to. -/
structure Spot where
  path : String
  /-- The starting point that leads to it. -/
  start : String
  depth : Nat
  status : Status

/-- What comes of a search. -/
structure Outcome where
  status : Nat := 0
  /-- Is the directory not gone into, and is the search over? -/
  pruned : Bool := false
  ended : Bool := false
  /-- What has been collected for commands, by their numbers, the last first; the directory counts only
  for commands that run in place. -/
  collected : List (Nat × List String × Bool × List (String × String)) := []

/-- A step of a search. -/
abbrev Finder (α : Type) := StateT Outcome Tool α

def act (t : Tool α) : Finder α :=
  StateT.lift t

def failed : Finder Unit :=
  modify fun o => { o with status := 1 }

def complainIn (told : String) : Finder Unit := do
  act (complain told)
  failed

/-! ### Tests -/

/-- The letter of a kind. -/
def kindOf (k : Kind) : Char :=
  match k with
  | .file => 'f'
  | .directory => 'd'
  | .link => 'l'
  | .device => 'c'
  | .queue => 'p'

/-- The last name of a path. -/
def nameIn (path : String) : String :=
  let name := baseName path
  if name = "" then path else name

/-- The path of the directory that a place is in. -/
def directoryIn (path : String) : String :=
  match (withoutSlashes path).toList.reverse.dropWhile (· != '/') with
  | [] => "."
  | cs =>
    match cs.drop 1 with
    | [] => ""
    | above => .ofList above.reverse

def lowered (cs : List Char) : List Char :=
  cs.map Char.toLower

/-- Does a pattern fit a text? -/
def fits (pattern : List Char) (ignoresCase : Bool) (text : String) : Bool :=
  if ignoresCase then Shell.Pattern.isMatch (lowered pattern) (lowered text.toList)
  else Shell.Pattern.isMatch pattern text.toList

/-- Does a mode have the bits that are wanted? -/
def permits (bits : Bits) (wanted mode : Nat) : Bool :=
  let mode := mode % 4096
  match bits with
  | .exactly => mode == wanted
  | .all => mode &&& wanted == wanted
  | .some => mode &&& wanted != 0

/-- Is an age in units as wanted? -/
def isAged (m : Measure) (unit : Nat) (roundsUp : Bool) (age : Int) : Bool :=
  let n : Int := m.value
  let u : Int := unit
  match m.order with
  | .lt => decide (age < n * u)
  | .gt => decide ((if roundsUp then n else n + 1) * u < age || !roundsUp && age = (n + 1) * u)
  | .eq =>
    if roundsUp then decide ((n - 1) * u < age && age ≤ n * u)
    else decide (n * u ≤ age && age < (n + 1) * u)

/-! ### Telling -/

/-- The text of a conversion for a place; a time has a letter more. -/
def conversion (s : Spot) (target : Option String) (l : Shell.Layout) (c : Char) : String :=
  let number (n : Nat) : String := l.whole "" (toString n)
  match c with
  | 'p' => l.text s.path
  | 'f' => l.text (nameIn s.path)
  | 'h' => l.text (directoryIn s.path)
  | 'H' => l.text s.start
  | 'P' =>
    let rest := s.path.toList.drop s.start.length
    l.text (.ofList (rest.dropWhile (· == '/')))
  | 'd' => number s.depth
  | 's' => number s.status.size
  | 'm' => l.whole "" ((if l.alternate then "0" else "") ++ Describing.inBase 8 (s.status.mode % 4096))
  | 'M' => l.text ((kindLetter s.status.kind).toString ++ modeLetters s.status.mode)
  | 'y' | 'Y' => l.text (kindOf s.status.kind).toString
  | 'l' => l.text (target.getD "")
  | 'n' => number s.status.links
  | 'i' => number s.status.number
  | 'b' => number (Describing.blocksOf s.status)
  | 'k' => number ((Describing.blocksOf s.status + 1) / 2)
  | 'U' | 'G' => number 0
  | 'u' | 'g' => l.text "root"
  | 'D' => number 1
  | 'F' => l.text "ext4"
  | 'S' =>
    if s.status.size = 0 then "1"
    else l.text (Shell.Fraction.general
      ⟨Describing.blocksOf s.status * 512, s.status.size⟩ 6 false)
  | 'a' | 'c' | 't' =>
    l.text (Text.Calendar.formatted (s.status.time / 1000000) (s.status.time % 1000000).toNat
      "%a %b %e %H:%M:%S.%N0 %Y")
  | c => "%" ++ c.toString

/-- A part of a time. -/
def timePart (t : Int) (c : Char) : String :=
  let micros := (t % 1000000).toNat
  let format (f : String) : String := Text.Calendar.formatted (t / 1000000) micros f
  match c with
  | '@' => format "%s.%N0"
  | '+' => format "%Y-%m-%d+%H:%M:%S.%N0"
  | 'S' => format "%S.%N0"
  | 'T' => format "%H:%M:%S.%N0"
  | 'X' => format "%H:%M:%S.%N0"
  | c => format ("%" ++ c.toString)

/-- Tell a place by a format. -/
def tell (s : Spot) (target : Option String) : Nat → List Char → Tool Unit
  | 0, _ => pure ()
  | _, [] => pure ()
  | fuel + 1, '%' :: cs => do
    let (l, cs) := Shell.Layout.flags cs {}
    let width := cs.takeWhile Char.isDigit
    let cs := cs.drop width.length
    let (precision, cs) : Option Nat × List Char :=
      match cs with
      | '.' :: cs =>
        let digits := cs.takeWhile Char.isDigit
        (some (Shell.Numeral.digits 10 digits).1, cs.drop digits.length)
      | cs => (none, cs)
    let l : Shell.Layout := { l with width := (Shell.Numeral.digits 10 width).1, precision }
    match cs with
    | [] => say "%"
    | '%' :: cs => do
      say "%"
      tell s target fuel cs
    | c :: cs => do
      match cs with
      | part :: rest =>
        if c == 'T' || c == 'A' || c == 'C' || c == 'B' then
          say (l.text (timePart s.status.time part))
          tell s target fuel rest
        else do
          say (conversion s target l c)
          tell s target fuel cs
      | [] => say (conversion s target l c)
  | fuel + 1, '\x5c' :: cs => do
    match cs with
    | [] => say "\\"
    | 'c' :: _ => flush
    | c :: rest =>
      if Shell.Format.isOctal c then
        let digits := (cs.take 3).takeWhile Shell.Format.isOctal
        say (Char.ofNat ((Shell.Numeral.digits 8 digits).1 % 256)).toString
        tell s target fuel (cs.drop digits.length)
      else
        match Shell.Format.escape? c with
        | some e => say e.toString
        | none =>
          if c == '\x5c' then say "\\"
          else do
            complain ("warning: unrecognized escape \x60\\" ++ c.toString ++ "'")
            say ("\\" ++ c.toString)
        tell s target fuel rest
  | fuel + 1, c :: cs => do
    let plain := cs.takeWhile fun d => d != '%' && d != '\x5c'
    say (.ofList (c :: plain))
    tell s target fuel (cs.drop plain.length)

/-! ### Programs -/

/-- Run a program, in a directory if one is given; has it ended well? -/
def runProgram (args : List String) (place : Option String) : Tool Bool := do
  flush
  let d ← get
  let child ← StateT.lift (Doing.fork (Doing.toProcess do
    let act : Tool Nat := do
      match place with
      | some dir =>
        let _ ← ask (.changeDirectory dir)
      | none => pure ()
      let e ← goOn args d.bindings
      sayError (d.name ++ ": " ++ shellQuoted (args.headD "") ++ ": " ++ e.message ++ "\n")
      return 1
    let (status, _) ← act.run { d with pieces := [], size := 0 }
    return status % 256))
  match ← ask (.wait (some child) true false) with
  | .ended _ how => return how == .exited 0
  | _ => return false

/-- A path as it is seen from its directory. -/
def fromInside (path : String) : String × String :=
  let dir := directoryName path
  (dir, "./" ++ nameIn path)

/-- Run what has been collected. -/
def runCollected (command : List String) (inPlace : Bool) (paths : List (String × String)) :
    Finder Unit := do
  if !inPlace then
    if !(← act (runProgram (command ++ paths.reverse.map (·.2)) none)) then failed
  else
    let dirs := paths.reverse.foldl (fun ds p => if ds.contains p.1 then ds else ds ++ [p.1]) []
    for dir in dirs do
      let here := (paths.reverse.filter (·.1 == dir)).map (·.2)
      if !(← act (runProgram (command ++ here) (some dir))) then failed

/-! ### Conditions -/

/-- Does a condition hold at a place? -/
def holds (search : Search) (s : Spot) : Condition → Finder Bool
  | .both a b => do if ← holds search s a then holds search s b else return false
  | .either a b => do if ← holds search s a then return true else holds search s b
  | .after a b => do
    let _ ← holds search s a
    if (← get).ended then return false
    holds search s b
  | .unless a => do return !(← holds search s a)
  | .always value => return value
  | .named .name pattern ignoresCase => return fits pattern ignoresCase (nameIn s.path)
  | .named .path pattern ignoresCase => return fits pattern ignoresCase s.path
  | .named .target pattern ignoresCase => do
    match ← act (ask (.readLink s.path)) with
    | .ok t => return fits pattern ignoresCase t
    | .error _ => return false
  | .shaped r ignoresCase => do
    let text := s.path.toList.toArray
    let sight : Text.Sight := { text, ignoresCase, remembers := r.remembers }
    return (r.regex.walk sight ⟨0, []⟩).any fun m => m.place == text.size
  | .kind letters follows => do
    if !follows then return letters.contains (kindOf s.status.kind)
    match ← act (ask (.status s.path true)) with
    | .ok t => return letters.contains (kindOf t.kind)
    | .error _ => return letters.contains 'l'
  | .size m unit => return m.fits ((s.status.size + unit - 1) / unit)
  | .empty => do
    match s.status.kind with
    | .file => return s.status.size == 0
    | .directory => do
      match ← act (ask (.list s.path)) with
      | .ok names => return names.isEmpty
      | .error _ => return false
    | _ => return false
  | .newer time => return decide (time < s.status.time)
  | .permitted bits mode => return permits bits mode s.status.mode
  | .links m => return m.fits s.status.links
  | .numbered m => return m.fits s.status.number
  | .aged m unit roundsUp => return isAged m unit roundsUp (search.now - s.status.time)
  | .owned isRoot => return isRoot
  | .same number => return s.status.number == number
  | .usable bits => do
    let bitsThere := match ← act (ask (.status s.path true)) with
      | .ok t => t.mode &&& bits
      | .error _ => 0
    return bits != 0o111 || bitsThere != 0
  | .print ending => do
    act (say (s.path ++ ending))
    return true
  | .printFormat text => do
    let target ← if s.status.kind == .link then act (ask (.readLink s.path)) else pure (.error .invalid)
    act (tell s target.toOption (text.length + 1) text.toList)
    return true
  | .long => do
    act (say (toString s.status.number ++ " " ++ s.path ++ "\n"))
    return true
  | .start command inPlace => do
    let (dir, name) := if inPlace then fromInside s.path else ("", s.path)
    let mark := "\x7b\x7d".toList
    let args := command.map fun w =>
      String.ofList (Batching.filled mark name.toList (w.length + 1) w.toList)
    act (runProgram args (if inPlace then some dir else none))
  | .collect number command inPlace => do
    let spot := if inPlace then fromInside s.path else ("", s.path)
    modify fun o =>
      let others := o.collected.filter (·.1 != number)
      let held := ((o.collected.lookup number).map (·.2.2)).getD []
      { o with collected := others ++ [(number, command, inPlace, spot :: held)] }
    return true
  | .delete => do
    if s.path = "." then return true
    let result ←
      if s.status.kind == .directory then act (ask (.removeDirectory s.path))
      else act (ask (.unlink s.path))
    match result with
    | .ok _ => return true
    | .error e => do
      complainIn ("cannot delete " ++ shellQuoted s.path ++ ": " ++ e.message)
      return false
  | .prune => do
    modify fun o => { o with pruned := true }
    return true
  | .quit => do
    modify fun o => { o with ended := true }
    return true

/-- Go through a place and all below it. `around` holds the numbers of the directories around it. -/
def visit (search : Search) (c : Condition) : Nat → List Nat → String → String → Nat → Finder Unit
  | 0, _, _, _, _ => pure ()
  | fuel + 1, around, start, path, depth => do
    act (ask .tick)
    if (← get).ended then return
    let follows := search.follows || (search.followsFirst && depth = 0)
    let found ←
      match ← act (ask (.status path follows)) with
      | .ok s => pure (.ok s)
      | .error e =>
        if follows then pure ((← act (ask (.status path false))).mapError fun _ => e) else pure (.error e)
    match found with
    | .error e => complainIn (shellQuoted path ++ ": " ++ e.message)
    | .ok status => do
      let spot : Spot := ⟨path, start, depth, status⟩
      let asked : Finder Unit := do
        if search.least ≤ depth then
          let _ ← holds search spot c
      modify fun o => { o with pruned := false }
      if !search.behind then asked
      let o ← get
      let isInside := status.kind == .directory && !(o.pruned && !search.behind) && !o.ended &&
        search.most.all (depth < ·)
      if isInside then
        if around.contains status.number then
          complainIn ("File system loop detected; " ++ shellQuoted path ++
            " is part of the same file system loop as an outer directory.")
        else
          match ← act (ask (.list path)) with
          | .error e => complainIn (shellQuoted path ++ ": " ++ e.message)
          | .ok names =>
            for name in names do
              visit search c fuel (status.number :: around) start (below path name) (depth + 1)
      if search.behind && !(← get).ended then asked

end Finding

open Finding in
def find (args : List String) : Tool Nat := do
  let isSwitch (a : String) : Bool := ["-L", "-P", "-H"].contains a || a.startsWith "-O"
  let switches := args.takeWhile isSwitch
  let args := args.drop switches.length
  let args := if args.head? == some "--" then args.drop 1 else args
  let paths := args.takeWhile fun a => !looksLikeExpression true a
  let expression := args.drop paths.length
  let last := (switches.filter fun s => !s.startsWith "-O").getLast?
  let search : Search :=
    { follows := last == some "-L", followsFirst := last == some "-H", now := ← ask .clock }
  let ((condition, rest), search) ←
    if expression.isEmpty then pure ((Condition.always true, []), search)
    else (readCondition (2 * expression.length + 10) expression).run search
  match rest with
  | [] => pure ()
  | ")" :: _ => giveUp 1 "invalid expression; you have too many ')'"
  | a :: _ => giveUp 1 ("paths must precede expression: \x60" ++ a ++ "'")
  let condition := if condition.acts then condition else .both condition (.print "\n")
  let all : Finder Unit := do
    for path in if paths.isEmpty then ["."] else paths do
      visit search condition depthLimit [] path path 0
    for (_, command, inPlace, spots) in (← get).collected do runCollected command inPlace spots
  let (_, o) ← all.run {}
  return o.status

end Ensemble.Utility
