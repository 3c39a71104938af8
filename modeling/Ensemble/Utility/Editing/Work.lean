import Ensemble.Shell.Numeral
import Ensemble.Utility.Editing.Escape
import Ensemble.Utility.Starting

/-!
# Ensemble.Utility.Editing.Work

**Where lines come from and go to.** Lines are read from one file after the other. A file may be edited
in place: what is written for it is collected, and takes its place when all of it has been read. A last
line that has no line end gets one only if something is written behind it.
-/

/-! ### Lines

**What is done to a line**: its matches are replaced, and it is shown so that every character can be
seen. An empty match counts as one only if it is not right behind another match.
-/

namespace Ensemble.Utility.Editing

/-- A line that is worked on, and whether a line end follows where it is written. -/
structure Line where
  text : Array Char := #[]
  ended : Bool := true

namespace Line

/-- The text up to the first line end; none if there is no line end. -/
def first? (l : Line) (stop : Char) : Option (Array Char) :=
  (l.text.findIdx? (· == stop)).map fun n => l.text.extract 0 n

/-- A line, a line end and another line. -/
def join (a : Line) (stop : Char) (b : Line) : Line :=
  ⟨a.text.push stop ++ b.text, b.ended⟩

end Line

/-- How far the replacing of matches has come. -/
structure Progress where
  place : Nat := 0
  /-- Where the last match ends. -/
  behind : Option Nat := none
  count : Nat := 0
  replaced : Bool := false
  out : Array Char := #[]

namespace Substitution

/-- Replace matches from a place on. -/
def replaceFrom (s : Substitution) (sight : Text.Sight) (r : Text.Regex) : Nat → Progress → Progress
  | 0, p => p
  | fuel + 1, p =>
    let rest (n : Nat) : Array Char := sight.text.extract n sight.text.size
    if sight.text.size < p.place then p
    else
      match r.search sight p.place with
      | none => { p with out := p.out ++ rest p.place }
      | some m =>
        let out := p.out ++ sight.text.extract p.place m.start
        let next := sight.text.extract m.start (m.start + 1)
        if m.start = m.stop && p.behind == some m.start then
          replaceFrom s sight r fuel { p with place := m.start + 1, behind := none, out := out ++ next }
        else
          let count := p.count + 1
          let isEmpty := m.start = m.stop
          let skipped := if isEmpty then next else #[]
          let place := if isEmpty then m.stop + 1 else m.stop
          if count < s.nth then
            let out := out ++ sight.text.extract m.start m.stop ++ skipped
            replaceFrom s sight r fuel { p with place, behind := some m.stop, count, out }
          else
            let groupText := Text.Regex.textOf sight.text m
            let out := out ++ (composed groupText .same s.parts).toArray
            if s.every then
              replaceFrom s sight r fuel
                { place, behind := some m.stop, count, replaced := true, out := out ++ skipped }
            else { p with count, replaced := true, out := out ++ rest m.stop }

/-- The text in which matches have been replaced; none if there are none to be replaced. -/
def replace? (s : Substitution) (p : Pattern) (manyLines : Bool) (text : Array Char) :
    Option (Array Char) :=
  let sight : Text.Sight :=
    { text, manyLines := p.manyLines && manyLines, ignoresCase := p.ignoresCase
      remembers := p.remembers || s.greatest != 0 }
  let result := s.replaceFrom sight p.regex (text.size + 2) {}
  if result.replaced then some result.out else none

end Substitution

/-- Does a pattern match in a text? -/
def Pattern.isFoundIn (p : Pattern) (manyLines : Bool) (text : Array Char) : Bool :=
  let sight : Text.Sight :=
    { text, manyLines := p.manyLines && manyLines, ignoresCase := p.ignoresCase
      remembers := p.remembers }
  (p.regex.search sight 0).isSome

/-! ### Showing -/

/-- How a character is shown. -/
def shownChar (c : Char) : List Char :=
  let digit (n : Nat) : Char := Char.ofNat ('0'.toNat + n % 8)
  match c with
  | '\x5c' => ['\x5c', '\x5c']
  | '\x07' => ['\x5c', 'a']
  | '\x08' => ['\x5c', 'b']
  | '\x0c' => ['\x5c', 'f']
  | '\n' => ['\x5c', 'n']
  | '\r' => ['\x5c', 'r']
  | '\t' => ['\x5c', 't']
  | '\x0b' => ['\x5c', 'v']
  | c =>
    if 0x20 ≤ c.toNat && c.toNat ≤ 0x7E then [c]
    else ['\x5c', digit (c.toNat / 64), digit (c.toNat / 8), digit c.toNat]

/-- The characters of a line, shown on lines of a width, of which so much is used; a width of 0 is none. -/
def shownFrom (width : Nat) : Nat → List Char → List Char
  | _, [] => []
  | used, c :: cs =>
    let shown := shownChar c
    if width != 0 && width - 1 < used + shown.length then
      '\x5c' :: '\n' :: shown ++ shownFrom width shown.length cs
    else shown ++ shownFrom width (used + shown.length) cs

/-- A line so that every character can be seen. -/
def shown (width : Nat) (text : Array Char) : String :=
  .ofList (shownFrom width 0 text.toList ++ ['$'])

end Ensemble.Utility.Editing

/-! ### Files -/

namespace Ensemble.Utility.Editing

/-- How a script is applied. -/
structure Manner where
  silent : Bool := false
  /-- Is every file gone over by itself? -/
  separate : Bool := false
  /-- Are files replaced, and under which name is the old one kept? -/
  inPlace : Bool := false
  backup : Option String := none
  followsLinks : Bool := false
  stop : Char := '\n'
  /-- The width of lines that are shown. -/
  width : Nat := 70
  unbuffered : Bool := false

/-- What is written when a line is done. -/
inductive Queued
  | text (s : String)
  /-- A line of a file, without a line end before it that it might need. -/
  | file (name : String)

/-- How far a range of lines has come. -/
inductive Range
  | waiting
  /-- It ends with a line, or where its end is found. -/
  | going (finish : Option Nat)
  | over
deriving DecidableEq, Repr

/-- The work on lines so far. -/
structure Work where
  script : Script
  manner : Manner
  line : Line := {}
  held : Line := {}
  /-- The number of the line. -/
  number : Nat := 0
  /-- Has something been replaced since a line was read? -/
  replaced : Bool := false
  /-- What is written when the line is done, the last first. -/
  queue : List Queued := []
  ranges : List (Nat × Range) := []
  /-- The pattern that was used last. -/
  pattern : Option Pattern := none
  /-- The files to come, and the one that is being read. -/
  files : List String
  feed : Option Feed := none
  name : String := "-"
  /-- Is the next file gone over by itself? -/
  anew : Bool := false
  /-- Has a file been missing? -/
  failed : Bool := false
  /-- Where a line end is missing. -/
  owing : List Target := []
  /-- The files that are written to, with their descriptors. -/
  targets : List (String × Nat) := []
  /-- The files that are read by lines. -/
  sources : List (String × Feed) := []
  /-- What has been written for a file that is edited in place, the last first. -/
  collected : List String := []

/-- A step of the work. -/
abbrev Editing (α : Type) := StateT Work Tool α

/-- Tell something at once, whatever is still to be passed on. -/
def tell (told : String) : Tool Unit := do
  sayError ((← get).name ++ ": " ++ told ++ "\n")

/-- Tell what is wrong, and end. -/
def tellAndQuit (status : Nat) (told : String) : Tool α := do
  tell told
  quit status

/-! ### Writing -/

/-- Write a text as it is. -/
def pass (t : Target) (text : String) : Editing Unit := do
  let w ← get
  match t with
  | .main =>
    if w.manner.inPlace && w.feed.isSome then set { w with collected := text :: w.collected }
    else do
      say text
      if w.manner.unbuffered then flush
  | .output => say text
  | .errors => sayError text
  | .file name =>
    match w.targets.lookup name with
    | none => pure ()
    | some fd =>
      match ← writeTo fd (text.length + 1) text with
      | none => pure ()
      | some e => tellAndQuit 4 ("couldn't write " ++ toString text.length ++ " items to " ++ name ++ ": " ++
          e.message)

/-- Write the line end that is missing. -/
def settle (t : Target) : Editing Unit := do
  let w ← get
  if w.owing.contains t then
    set { w with owing := w.owing.filter (· != t) }
    pass t w.manner.stop.toString

/-- Write a text that ends itself. -/
def put (t : Target) (text : String) : Editing Unit := do
  settle t
  pass t text

/-- Write a line. -/
def putLine (t : Target) (l : Line) : Editing Unit := do
  settle t
  let stop := (← get).manner.stop
  pass t (.ofList (if l.ended then l.text.push stop else l.text).toList)
  if !l.ended then modify fun w => { w with owing := t :: w.owing }

/-- Write what is written when a line is done. -/
def writeQueue : Editing Unit := do
  let queue := (← get).queue.reverse
  modify fun w => { w with queue := [] }
  for q in queue do
    settle .main
    match q with
    | .text s => pass .main s
    | .file name => do
      match ← contentOf (if name = "/dev/stdin" then "-" else name) with
      | .text s => pass .main s
      | _ => pure ()

/-! ### Files -/

/-- The name under which an old file is kept. A star stands for its name. -/
def backupName (pattern path : String) : String :=
  let (directory, base) :=
    match (path.toList.reverse.span (· != '/')) with
    | (base, directory) => (String.ofList directory.reverse, String.ofList base.reverse)
  let name :=
    if pattern.toList.contains '*' then
      String.ofList (pattern.toList.flatMap fun c => if c == '*' then base.toList else [c])
    else base ++ pattern
  if name.toList.contains '/' then name else directory ++ name

/-- Put what has been written for a file into its place. -/
def replaceFile (path text : String) (backup : Option String) : Tool Unit := do
  let fresh := .ofList (path.toList.reverse.dropWhile (· != '/')).reverse ++ "sed" ++ "AAAAAA"
  let mode := match ← ask (.status path true) with | .ok st => st.mode | .error _ => 0o600
  match ← ask (.openFile fresh { writes := true, create := true, truncate := true, mode := 0o600 }) with
  | .error e => tellAndQuit 4 ("couldn't open temporary file " ++ fresh ++ ": " ++ e.message)
  | .ok fd => do
    let _ ← writeTo fd (text.length + 1) text
    let _ ← ask (.close fd)
    let _ ← ask (.setMode fresh mode)
    match backup with
    | none => pure ()
    | some pattern =>
      let old := backupName pattern path
      match ← ask (.rename path old) with
      | .ok _ => pure ()
      | .error e => tellAndQuit 4 ("cannot rename " ++ path ++ ": " ++ e.message)
    match ← ask (.rename fresh path) with
    | .ok _ => pure ()
    | .error e => tellAndQuit 4 ("cannot rename " ++ fresh ++ ": " ++ e.message)

/-- Be done with the file that is being read. -/
def closeFile : Editing Unit := do
  let w ← get
  match w.feed with
  | none => pure ()
  | some feed => do
    if feed.fd = 0 then feed.giveBack else closeInput feed.fd
    if w.manner.inPlace then
      replaceFile w.name (String.join w.collected.reverse) w.manner.backup
    set { w with feed := none, anew := w.manner.separate, collected := [] }

/-- Go over to a file. -/
def openFile (path : String) : Editing Unit := do
  let w ← get
  if path = "-" && !w.manner.inPlace then set { w with feed := some { fd := 0 }, name := path }
  else
    let path ←
      if w.manner.inPlace && w.manner.followsLinks then
        pure (match ← ask (.realPath path) with | .ok p => p | .error _ => path)
      else pure path
    match ← ask (.openFile path { reads := true }) with
    | .error e => do
      tell ("can't read " ++ path ++ ": " ++ e.message)
      set { w with failed := true }
    | .ok fd => do
      if w.manner.inPlace then
        match ← ask (.descriptorStatus fd) with
        | .ok st =>
          if st.kind != .file then tellAndQuit 4 ("couldn't edit " ++ path ++ ": not a regular file")
        | .error _ => pure ()
        set { w with feed := some { fd }, name := path, owing := w.owing.filter (· != Target.main) }
      else set { w with feed := some { fd }, name := path }

/-- Read more of a file, if nothing is left of what has been read. -/
def refill (name : String) (feed : Feed) : Editing Feed := do
  if !feed.held.isEmpty || feed.atEnd then return feed
  let w ← get
  let answer ←
    if w.manner.unbuffered then ask (.readThrough feed.fd w.manner.stop blockSize)
    else ask (.read feed.fd blockSize)
  match answer with
  | .ok "" => return { feed with atEnd := true }
  | .ok piece => return { feed with held := piece.toList }
  | .error e => tellAndQuit 4 ("read error on " ++ name ++ ": " ++ e.message)

/-- The next line of a file with its end, which may be missing. -/
def takeLine (name : String) : Nat → List (List Char) → Feed → Editing (Option (List Char) × Feed)
  | 0, _, feed => return (none, feed)
  | fuel + 1, pieces, feed => do
    let feed ← refill name feed
    let stop := (← get).manner.stop
    if feed.held.isEmpty then
      return (if pieces.isEmpty then none else some pieces.reverse.flatten, feed)
    match Text.splitFirst stop feed.held with
    | some (line, rest) =>
      return (some ((line ++ [stop]) :: pieces).reverse.flatten, { feed with held := rest })
    | none => takeLine name fuel (feed.held :: pieces) { feed with held := [] }

/-! ### Lines -/

/-- Is there another line? Files that have none are passed over, if the files are gone over as one. -/
def hasMoreIn : Nat → Editing Bool
  | 0 => return false
  | fuel + 1 => do
    let w ← get
    match w.feed with
    | some feed => do
      let feed ← refill w.name feed
      modify fun w => { w with feed := some feed }
      if !feed.held.isEmpty then return true
      if w.manner.separate then return false
      closeFile
      hasMoreIn fuel
    | none =>
      if w.manner.separate then return false
      match w.files with
      | [] => return false
      | f :: files => do
        set { w with files }
        openFile f
        hasMoreIn fuel

/-- Is there another line? -/
def hasMore : Editing Bool := do
  hasMoreIn (2 * (← get).files.length + 3)

/-- Make the ranges of a script wait for their first line, those from line 0 on excepted. -/
def firstRanges (s : Script) : List (Nat × Range) :=
  (List.range s.steps.size).filterMap fun n =>
    (s.steps[n]?).bind fun step =>
      match step.selector with
      | .range (.line 0) _ => some (n, .going none)
      | _ => none

/-- Begin with a file anew, if the files are gone over one by one. -/
def beginAnew : Editing Unit := do
  let w ← get
  if w.anew then
    for (_, feed) in w.sources do
      let _ ← ask (.seek feed.fd 0 .start)
    let sources := w.sources.map fun (name, feed) => (name, { fd := feed.fd : Feed })
    set { w with anew := false, number := 0, ranges := firstRanges w.script, sources }
    settle .main

/-- Read a line from the files that are left; it takes the place of the line, or is added to it. -/
def readLineFrom (more : Bool) : Nat → Editing Bool
  | 0 => return false
  | fuel + 1 => do
    let w ← get
    match w.feed with
    | none =>
      match w.files with
      | [] => return false
      | f :: files => do
        set { w with files }
        beginAnew
        openFile f
        readLineFrom more fuel
    | some feed => do
      match ← takeLine w.name readLimit [] feed with
      | (none, feed) => do
        modify fun w => { w with feed := some feed }
        closeFile
        readLineFrom more fuel
      | (some cs, feed) => do
        let text := (bare w.manner.stop cs).toArray
        let fresh : Line := ⟨text, cs.getLast? == some w.manner.stop⟩
        let line := if more then w.line.join w.manner.stop fresh else fresh
        modify fun w => { w with feed := some feed, line, number := w.number + 1 }
        return true

/-- Read the next line, after what is to be written when a line is done. -/
def readLine (more : Bool) : Editing Bool := do
  writeQueue
  modify fun w => { w with replaced := false }
  readLineFrom more (2 * (← get).files.length + 3)

end Ensemble.Utility.Editing
