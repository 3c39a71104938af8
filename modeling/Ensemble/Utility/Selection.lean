import Ensemble.Shell.Pattern
import Ensemble.Text.Regex.Reader
import Ensemble.Utility.Counting
import Ensemble.Utility.Names

/-!
# Ensemble.Utility.Selection

**Selecting lines**: `grep`. A line is selected if one of the patterns matches in it; at every place the
longest match counts. What is told of selected lines, and of those around them, is settled by a
`Selection`; a file is gone over line by line, as it is read.
-/

namespace Ensemble.Utility

/-- What of a file is told. -/
inductive Telling
  | lines
  | count
  /-- The name, if a line is selected, or if none is. -/
  | nameIf
  | nameUnless
  | nothing
deriving DecidableEq, Repr

/-- How lines are selected, and what is told of them. -/
structure Selection where
  patterns : List Text.Regex.Read
  ignoresCase : Bool := false
  words : Bool := false
  whole : Bool := false
  inverted : Bool := false
  telling : Telling := .lines
  onlyMatches : Bool := false
  most : Option Nat := none
  before : Option Nat := none
  after : Option Nat := none
  between : Option String := some "--"
  named : Bool := false
  numbered : Bool := false
  offsets : Bool := false
  tabbed : Bool := false
  /-- What stands behind a name. -/
  nameEnd : String := ":"
  nameEndAround : String := "-"
  nameAlone : String := "\n"
  /-- Are octets that no text has shown like others, or taken for a sign that nothing is to be shown? -/
  asText : Bool := false
  skipsBinary : Bool := false
  stop : Char := '\n'
  label : String := "(standard input)"
  /-- Are complaints about files left out? -/
  silent : Bool := false

namespace Selection

/-! ### Matches -/

/-- May a match be where it is, if only whole words count? -/
def standsAlone (text : Array Char) (start stop : Nat) : Bool :=
  let isWord (c : Option Char) : Bool := c.any Text.isWordChar
  !(start != 0 && isWord text[start - 1]?) && !isWord text[stop]?

/-- How far the longest match at a place comes. -/
def matchAt (s : Selection) (text : Array Char) (place : Nat) : Option Nat :=
  let stops := s.patterns.flatMap fun r =>
    let sight : Text.Sight := { text, ignoresCase := s.ignoresCase, remembers := r.remembers }
    (r.regex.walk sight ⟨place, []⟩).map (·.place)
  let stops := if s.words then stops.filter fun stop => standsAlone text place stop else stops
  match stops with
  | [] => none
  | n :: ns => some (ns.foldl max n)

/-- The first match at or behind a place. -/
def search (s : Selection) (text : Array Char) : Nat → Nat → Option (Nat × Nat)
  | 0, _ => none
  | fuel + 1, place =>
    match s.matchAt text place with
    | some stop => some (place, stop)
    | none => search s text fuel (place + 1)

/-- Does a pattern match all of a line? -/
def matchesAll (s : Selection) (text : Array Char) : Bool :=
  s.patterns.any fun r =>
    let sight : Text.Sight := { text, ignoresCase := s.ignoresCase, remembers := r.remembers }
    (r.regex.walk sight ⟨0, []⟩).any fun m => m.place == text.size

/-- Does a pattern match in a line? -/
def isMatched (s : Selection) (line : List Char) : Bool :=
  let text := line.toArray
  if s.whole then s.matchesAll text else (s.search text (text.size + 1) 0).isSome

/-- Is a line selected? -/
def selects (s : Selection) (line : List Char) : Bool :=
  s.isMatched line != s.inverted

/-- The matches in a line that are not empty: from where to where. -/
def matchesFrom (s : Selection) (text : Array Char) : Nat → Nat → List (Nat × Nat)
  | 0, _ => []
  | fuel + 1, place =>
    match s.search text (text.size + 1 - place) place with
    | none => []
    | some (start, stop) =>
      if stop = start then
        if text.size ≤ start then [] else matchesFrom s text fuel (start + 1)
      else (start, stop) :: matchesFrom s text fuel stop

/-- The matches in a line that are shown by themselves. -/
def shownMatches (s : Selection) (line : List Char) : List (Nat × Nat) :=
  let text := line.toArray
  if s.inverted then []
  else if s.whole then (if s.matchesAll text && !line.isEmpty then [(0, text.size)] else [])
  else s.matchesFrom text (text.size + 1) 0

/-! ### Lines -/

/-- A line and where it stands. -/
structure Numbered where
  number : Nat
  offset : Nat
  text : List Char

/-- How far a file has been gone over. -/
structure Progress where
  number : Nat := 0
  offset : Nat := 0
  selected : Nat := 0
  /-- How many lines behind the last selected one are still shown. -/
  toCome : Nat := 0
  /-- The lines before, the last first, that are shown if one is selected soon. -/
  behind : List Numbered := []
  /-- The number of the last line that has been shown. -/
  shown : Option Nat := none
  /-- Has anything been shown, of this file or of others before? -/
  used : Bool := false
  isBinary : Bool := false
  /-- The offset behind the last selected line. -/
  last : Nat := 0

/-- Is nothing shown of single lines? -/
def quiet (s : Selection) : Bool :=
  s.telling != .lines

/-- What stands before a line. -/
def lead (s : Selection) (name : String) (isSelected : Bool) (number offset : Nat) : String :=
  let mark := if isSelected then ":" else "-"
  let text :=
    (if s.named then name ++ (if isSelected then s.nameEnd else s.nameEndAround) else "") ++
    (if s.numbered then toString number ++ mark else "") ++
    (if s.offsets then toString offset ++ mark else "")
  if s.tabbed && text != "" then text ++ "\t"
  else text

/-- Show a line. -/
def sayNumbered (s : Selection) (name : String) (isSelected : Bool) (l : Numbered) : Tool Unit := do
  if s.onlyMatches then
    if isSelected then
      for (start, stop) in s.shownMatches l.text do
        say (s.lead name true l.number (l.offset + start) ++
          .ofList ((l.text.drop start).take (stop - start)) ++ s.stop.toString)
  else
    say (s.lead name isSelected l.number l.offset ++ .ofList l.text ++ s.stop.toString)

/-- Show a selected line with those before it. -/
def sayGroup (s : Selection) (name : String) (p : Progress) (l : Numbered) : Tool Progress := do
  let context := (p.behind.take (s.before.getD 0)).reverse
  let first := match context with | c :: _ => c.number | [] => l.number
  let isGap := match p.shown with | some n => n + 1 != first | none => true
  if (s.before.isSome || s.after.isSome) && p.used && isGap then
    match s.between with
    | some text => sayLine text
    | none => pure ()
  for c in context do
    s.sayNumbered name false c
  s.sayNumbered name true l
  return { p with shown := some l.number, used := true, behind := [], toCome := s.after.getD 0 }

/-- Have as many lines been selected as are wanted? -/
def isFull (s : Selection) (p : Progress) : Bool :=
  s.most.any (decide <| · ≤ p.selected)

/-- Take the next line into account; the answer is also whether no more are wanted. -/
def step (s : Selection) (name : String) (p : Progress) (line : List Char) :
    Tool (Progress × Bool) := do
  let body := bare s.stop line
  let l : Numbered := ⟨p.number + 1, p.offset, body⟩
  let p := { p with number := p.number + 1, offset := p.offset + line.length }
  if s.isFull p then
    if p.toCome = 0 || s.selects body then return (p, true)
    if !s.quiet then s.sayNumbered name false l
    return ({ p with toCome := p.toCome - 1, shown := some l.number }, p.toCome ≤ 1)
  if s.selects body then
    let p := { p with selected := p.selected + 1, last := p.offset }
    if s.quiet then
      return (p, s.telling != .count || s.isFull p)
    else if p.isBinary then
      return (p, true)
    else do
      let p ← s.sayGroup name p l
      return (p, s.isFull p && p.toCome = 0)
  else if s.quiet then return (p, false)
  else if p.toCome != 0 then
    if !p.isBinary then s.sayNumbered name false l
    return ({ p with toCome := p.toCome - 1, shown := some l.number }, false)
  else
    return ({ p with behind := if s.before.isSome then (l :: p.behind).take (s.before.getD 0) else [] },
      false)

/-- Take lines into account. -/
def steps (s : Selection) (name : String) : Progress → List (List Char) → Tool (Progress × Bool)
  | p, [] => return (p, false)
  | p, line :: lines => do
    match ← s.step name p line with
    | (p, true) => return (p, true)
    | (p, false) => steps s name p lines

/-- Go over a file that is open. -/
def overFile (s : Selection) (name : String) (fd : Nat) (used : Bool) :
    Tool (Except MachineFault Progress) := do
  let start : Progress := { used }
  foldPieces fd s.stop (fun p lines => do
    let marks := !s.asText && s.stop == '\n' && lines.any (·.contains '\x00')
    let p := { p with isBinary := p.isBinary || marks }
    if p.isBinary && s.skipsBinary then return (p, true)
    s.steps name p lines) readLimit [] start

/-! ### Files -/

/-- Complain about a file. -/
def complainAbout (s : Selection) (name : String) (e : MachineFault) : Tool Unit := do
  if !s.silent then complainOf name e

/-- Leave standard input where the last selected line ends, or at its end. -/
def leaveInput (s : Selection) (p : Progress) : Tool Unit := do
  if s.isFull p then
    let _ ← ask (.seek 0 p.last .start)
  else if s.telling != .lines && s.telling != .count then
    let _ ← ask (.seek 0 0 .finish)

/-- Tell of a file, whose lines have been gone over. -/
def conclude (s : Selection) (name : String) (p : Progress) : Tool Unit := do
  let lead := if s.named then name ++ s.nameEnd else ""
  match s.telling with
  | .count => sayLine (lead ++ toString p.selected)
  | .nameIf => if p.selected != 0 then say (name ++ s.nameAlone)
  | .nameUnless => if p.selected = 0 then say (name ++ s.nameAlone)
  | .lines =>
    if p.isBinary && p.selected != 0 && !s.skipsBinary then
      flush
      sayError ((← get).name ++ ": " ++ name ++ ": binary file matches\n")
  | .nothing => pure ()

/-- Is a file the one to which output goes? -/
def isOwnOutput (s : Selection) (fd : Nat) : Tool Bool := do
  if s.quiet || s.most.any (· ≤ 1) then return false
  match ← ask (.descriptorStatus fd), ← ask (.descriptorStatus 1) with
  | .ok input, .ok output => return output.kind = .file && input.number = output.number
  | _, _ => return false

/-- What has come of the files so far. -/
structure Outcome where
  selected : Bool := false
  failed : Bool := false
  used : Bool := false
  /-- Is nothing left to be done? -/
  settled : Bool := false

/-- Go over a file. -/
def file (s : Selection) (o : Outcome) (path : String) : Tool Outcome := do
  let name := if path = "-" then s.label else path
  match ← openInput path with
  | .error e => do
    s.complainAbout name e
    return { o with failed := true }
  | .ok fd => do
    if ← s.isOwnOutput fd then
      closeInput fd
      if !s.silent then complain (name ++ ": input file is also the output")
      return { o with failed := true }
    match ← s.overFile name fd o.used with
    | .error e => do
      closeInput fd
      s.complainAbout name e
      return { o with failed := true }
    | .ok p => do
      s.conclude name p
      if path = "-" then s.leaveInput p else closeInput fd
      return { o with
        selected := o.selected || p.selected != 0, used := p.used
        settled := s.telling == .nothing && p.selected != 0 }

/-- Which files below directories are gone over. -/
structure Descent where
  includes : List String := []
  excludes : List String := []
  excludedDirectories : List String := []
  follows : Bool := false
  /-- Are files that are found below a directory named? -/
  names : Bool := false

namespace Descent

def fits (patterns : List String) (name : String) : Bool :=
  patterns.any fun p => Shell.Pattern.isMatch p.toList name.toList

/-- Is a file gone over? -/
def takes (d : Descent) (name : String) : Bool :=
  (d.includes.isEmpty || fits d.includes name) && !fits d.excludes name

end Descent

/-- Go over a place, and over all below it. -/
def place (s : Selection) (d : Descent) : Nat → Bool → Outcome → String → Tool Outcome
  | 0, _, o, _ => return o
  | fuel + 1, isOperand, o, path => do
    if o.settled then return o
    match ← ask (.status path (isOperand || d.follows)) with
    | .error e => do
      s.complainAbout path e
      return { o with failed := true }
    | .ok st =>
      match st.kind with
      | .directory => do
        if Descent.fits d.excludedDirectories (baseName path) then return o
        match ← ask (.list path) with
        | .error e => do
          s.complainAbout path e
          return { o with failed := true }
        | .ok names => do
          let mut outcome := o
          for name in names do
            outcome ← place { s with named := s.named || d.names } d fuel false outcome (below path name)
          return outcome
      | .file => if d.takes (baseName path) then s.file o path else return o
      | _ => if isOperand then s.file o path else return o

/-- Go over the names in the current directory. -/
def placeHere (s : Selection) (d : Descent) (o : Outcome) : Tool Outcome := do
  match ← ask (.list ".") with
  | .error e => do
    s.complainAbout "." e
    return { o with failed := true }
  | .ok names => do
    let mut outcome := o
    for name in names do
      outcome ← place { s with named := s.named || d.names } d depthLimit false outcome name
    return outcome

end Selection

/-! ### Options -/

/-- A kind of patterns. -/
inductive PatternKind
  | basic
  | extended
  | fixed
deriving DecidableEq, Repr

/-- What is said to someone who does not know how to use it. -/
def selectionHint (name : String) : String :=
  "Usage: " ++ name ++ " [OPTION]... PATTERNS [FILE]...\nTry '" ++ name ++
    " --help' for more information.\n"

/-- A pattern that has been read, or else the end of the utility. -/
def patternOf (kind : PatternKind) (ignoresCase : Bool) (text : String) : Tool Text.Regex.Read := do
  let spelling : Text.Spelling :=
    { extended := kind == .extended, ignoresCase, strict := false, strictBraces := false, lenient := true }
  match kind with
  | .fixed =>
    let regex := text.toList.foldl (fun r c => Text.Regex.join r (Text.Regex.plain spelling c)) .empty
    return ⟨regex, 0, false, []⟩
  | _ =>
    match Text.Regex.ofString spelling text with
    | .ok r => do
      for w in r.warnings do
        complain ("warning: " ++ w)
      return r
    | .error fault => giveUp 2 fault.message

/-- A number of lines, or else the end of the utility. -/
def lineCount (told s : String) : Tool Nat := do
  match Shell.Numeral.whole? 10 s with
  | some n => if 0 ≤ n && s != "" then return n.toNat else giveUp 2 (told.replace "%" s)
  | none =>
    if !s.isEmpty && s.toList.all Char.isDigit then return 1000000000 else giveUp 2 (told.replace "%" s)

/-- The patterns that options and operands give, each on a line of its own, and the other operands. -/
def patternTexts (chosen : Chosen) (operands : List String) : Tool (List String × List String) := do
  let given := chosen.reverse.filter fun (name, _) => name = "e" || name = "f"
  if given.isEmpty then
    match operands with
    | [] => misuse
    | p :: rest =>
      let (first, more) := Text.cutBetween '\n' p.toList
      return ((first :: more).map String.ofList, rest)
  else
    let mut texts := []
    for (name, value) in given do
      if name = "e" then
        let (first, more) := Text.cutBetween '\n' value.toList
        texts := texts ++ (first :: more).map String.ofList
      else
        match ← contentOf value with
        | .text t => texts := texts ++ linesOf t
        | .notOpened e | .notRead e => giveUp 2 (value ++ ": " ++ e.message)
    return (texts, operands)

/-- The digits that are given as options, as one number. -/
def contextDigits (chosen : Chosen) : Option Nat :=
  let digits := (chosen.reverse.filter fun (name, _) => (name.toList.all Char.isDigit)).map (·.1)
  if digits.isEmpty then none else some (Nat.ofDigitChars 10 (String.join digits).toList 0)

/-- Select lines with patterns that are of this kind if no option says otherwise. -/
def grepAs (start : PatternKind) (args : List String) : Tool Nat := do
  let (chosen, operands) ← ({
    letters := "0123456789A:B:C:D:EFGHILPRTUVX:abcd:e:f:hiLlm:noqRrsuvwxyZz"
    words := [("binary-files:", "binary-files"), ("after-context:", "A"), ("before-context:", "B"),
      ("context:", "C"), ("byte-offset", "b"), ("color::", "color"), ("colour::", "color"),
      ("count", "c"), ("devices:", "D"), ("directories:", "d"), ("exclude:", "exclude"),
      ("exclude-from:", "exclude-from"), ("exclude-dir:", "exclude-dir"), ("extended-regexp", "E"),
      ("file:", "f"), ("files-with-matches", "l"), ("files-without-match", "L"),
      ("fixed-regexp", "F"), ("fixed-strings", "F"), ("group-separator:", "separator"),
      ("no-group-separator", "no-separator"), ("basic-regexp", "G"), ("ignore-case", "i"),
      ("no-ignore-case", "no-ignore-case"), ("include:", "include"), ("initial-tab", "T"),
      ("label:", "label"), ("line-buffered", "line-buffered"), ("line-number", "n"),
      ("line-regexp", "x"), ("max-count:", "m"), ("no-filename", "h"), ("no-messages", "s"),
      ("null", "Z"), ("null-data", "z"), ("only-matching", "o"), ("perl-regexp", "P"), ("quiet", "q"),
      ("recursive", "r"), ("dereference-recursive", "R"), ("regexp:", "e"), ("invert-match", "v"),
      ("silent", "q"), ("text", "a"), ("binary", "U"), ("unix-byte-offsets", "u"),
      ("with-filename", "H"), ("word-regexp", "w")] } : Choices).given args
  let contextTold := "%: invalid context length argument"
  let context ←
    match chosen.last? ["C"] with
    | some _ => do pure (some (← lineCount contextTold ((chosen.value? "C").getD "")))
    | none => pure (contextDigits chosen)
  let before ←
    match chosen.value? "B" with
    | some s => do pure (some (← lineCount contextTold s))
    | none => pure context
  let after ←
    match chosen.value? "A" with
    | some s => do pure (some (← lineCount contextTold s))
    | none => pure context
  let most ←
    match chosen.value? "m" with
    | some s =>
      if s.toList.head? == some '-' && (Shell.Numeral.whole? 10 s).isSome then pure none
      else do pure (some (← lineCount "invalid max count" s))
    | none => pure none
  match chosen.value? "binary-files" with
  | some s =>
    if !(["binary", "text", "without-match"].contains s) then giveUp 2 "unknown binary-files type"
  | none => pure ()
  let (texts, paths) ← patternTexts chosen operands
  let kind : PatternKind :=
    match chosen.last? ["E", "F", "G", "P"] with
    | some "E" | some "P" => .extended
    | some "F" => .fixed
    | some _ => .basic
    | none => start
  let ignoresCase := chosen.last? ["i", "y", "no-ignore-case"] != some "no-ignore-case" &&
    (chosen.has "i" || chosen.has "y")
  let patterns ← texts.mapM (patternOf kind ignoresCase)
  let toNull := match ← ask (.descriptorStatus 1) with
    | .ok st => st.kind == .device && st.number == 5
    | .error _ => false
  let telling : Telling :=
    if chosen.has "q" || toNull then .nothing
    else
      match chosen.last? ["l", "L"] with
      | some "l" => .nameIf
      | some _ => .nameUnless
      | none => if chosen.has "c" then .count else .lines
  let whole := chosen.has "r" || chosen.has "R"
  let nulls := chosen.has "Z"
  let s : Selection := {
    patterns, ignoresCase, telling, most, before, after
    words := chosen.has "w" && !chosen.has "x", whole := chosen.has "x", inverted := chosen.has "v"
    onlyMatches := chosen.has "o"
    between := if chosen.last? ["separator", "no-separator"] == some "no-separator" then none
      else some ((chosen.value? "separator").getD "--")
    named :=
      match chosen.last? ["H", "h"] with
      | some "H" => true
      | some _ => false
      | none => 1 < paths.length
    numbered := chosen.has "n", offsets := chosen.has "b", tabbed := chosen.has "T"
    nameEnd := if nulls then "\x00" else ":", nameEndAround := if nulls then "\x00" else "-"
    nameAlone := if nulls then "\x00" else "\n"
    asText := chosen.has "a" || chosen.value? "binary-files" == some "text"
    skipsBinary := chosen.has "I" || chosen.value? "binary-files" == some "without-match"
    stop := if chosen.has "z" then '\x00' else '\n'
    label := (chosen.value? "label").getD "(standard input)", silent := chosen.has "s" }
  if most == some 0 then return 1
  let all (name : String) : List String := (chosen.filter (·.1 == name)).map (·.2)
  let d : Selection.Descent :=
    { includes := all "include", excludes := all "exclude", excludedDirectories := all "exclude-dir"
      follows := chosen.has "R", names := (chosen.last? ["H", "h"]).isNone }
  let skipsDirectories := chosen.value? "d" == some "skip"
  let mut o : Selection.Outcome := {}
  if paths.isEmpty && whole then o ← s.placeHere d o
  else
    for path in if paths.isEmpty then ["-"] else paths do
      if !o.settled then
        let isSkipped ←
          if skipsDirectories && path != "-" then
            pure (match ← ask (.status path true) with
              | .ok st => st.kind == .directory
              | .error _ => false)
          else pure false
        if isSkipped then pure ()
        else if whole && path != "-" then o ← s.place d depthLimit true o path
        else if path = "-" || d.takes (baseName path) then o ← s.file o path
  if s.telling == .nothing && o.selected then return 0
  return if o.failed then 2 else if o.selected then 0 else 1

end Ensemble.Utility
