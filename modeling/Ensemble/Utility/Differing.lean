import Ensemble.Text.Regex.Reader
import Ensemble.Shell.Pattern
import Ensemble.Utility.Differing.Hunk
import Ensemble.Utility.Input
import Ensemble.Utility.Names
import Ensemble.Utility.Question
import Std.Data.HashMap

/-!
# Ensemble.Utility.Differing

Telling **how files and directories differ**: `diff`. Lines are the same if what counts of them is
(`Sameness.core`).
-/

namespace Ensemble.Utility

namespace Differing

open Text (Change)

/-- How much of white space counts. -/
inductive SpaceRule
  | all
  /-- Tabs count as the blanks up to the next stop. -/
  | expanded
  /-- None counts at the end of a line. -/
  | trailing
  | expandedTrailing
  /-- None counts at the end of a line, and elsewhere only that there is some. -/
  | amount
  | none
deriving DecidableEq, Repr

def SpaceRule.trims : SpaceRule → Bool
  | .all | .expanded => false
  | _ => true

/-- Which lines are the same, and which changes do not matter. -/
structure Sameness where
  ignoresCase : Bool := false
  space : SpaceRule := .all
  blankLines : Bool := false
  minor : List Text.Regex.Read := []

namespace Sameness

def isSpace (c : Char) : Bool :=
  c == ' ' || ('\t' ≤ c && c ≤ '\r')

/-- Blanks in place of tabs. -/
def expanded : Nat → List Char → List Char
  | _, [] => []
  | column, '\t' :: cs =>
    let next := column + 8 - column % 8
    List.replicate (next - column) ' ' ++ expanded next cs
  | column, c :: cs => c :: expanded (column + 1) cs

/-- One blank in place of each run of white space. -/
def squeezed : List Char → List Char
  | [] => []
  | c :: cs =>
    let rest := squeezed cs
    if isSpace c then if rest.head? == some ' ' then rest else ' ' :: rest else c :: rest

def trimmed (cs : List Char) : List Char :=
  (cs.reverse.dropWhile isSpace).reverse

/-- What counts of a line. -/
def core (s : Sameness) (line : String) : List Char :=
  let cs := line.toList
  let ended := cs.getLast? == some '\n'
  let cs := if ended then cs.dropLast else cs
  let cs := if s.ignoresCase then cs.map Char.toLower else cs
  let cs :=
    match s.space with
    | .all => cs
    | .expanded => expanded 0 cs
    | .trailing => trimmed cs
    | .expandedTrailing => trimmed (expanded 0 cs)
    | .amount => trimmed (squeezed cs)
    | .none => cs.filter fun c => !isSpace c
  if ended || s.space.trims then cs ++ ['\n'] else cs

/-- Does a line not matter if it is changed? -/
def isMinor (s : Sameness) (line : String) : Bool :=
  let cs := (bare '\n' line.toList)
  let isBlank :=
    match s.space with
    | .amount | .none => cs.all isSpace
    | .trailing | .expandedTrailing => cs.all isSpace
    | _ => cs.isEmpty
  (s.blankLines && isBlank) ||
    s.minor.any fun r =>
      (r.regex.search { text := cs.toArray, remembers := r.remembers } 0).isSome

/-- The lines of two texts as numbers: lines that are the same have one number. -/
def numbered (s : Sameness) (first second : Array String) : Array Nat × Array Nat :=
  let cores := ((first.toList ++ second.toList).map fun l => String.ofList (s.core l))
  let (_, numbers) := cores.foldl (fun ((known, numbers) : Std.HashMap String Nat × Array Nat) core =>
    match known[core]? with
    | some n => (known, numbers.push n)
    | none => (known.insert core (known.size + 1), numbers.push (known.size + 1))) ({}, #[])
  (numbers.extract 0 first.size, numbers.extract first.size numbers.size)

/-- The changes from one text to another. -/
def changes (s : Sameness) (around : Nat) (first second : Array String) : List LineChange :=
  let (a, b) := s.numbered first second
  let hasMinor := s.blankLines || !s.minor.isEmpty
  (Text.Difference.changes around a b).map fun h =>
    { h with
      minor := hasMinor &&
        ((first.extract h.first (h.first + h.gone)).all s.isMinor &&
          (second.extract h.second (h.second + h.come)).all s.isMinor) }

end Sameness

/-- What is compared, and how it is told. -/
structure Job where
  telling : Telling := {}
  sameness : Sameness := {}
  brief : Bool := false
  tellsSameFiles : Bool := false
  recursive : Bool := false
  /-- Does a file that is not there count as empty, in the second place and in the first? -/
  absentSecond : Bool := false
  absentFirst : Bool := false
  /-- Is everything taken for text? -/
  asText : Bool := false
  follows : Bool := true
  labels : List String := []
  excluded : List String := []
  /-- The options as they were given, which stand before the names of files found in directories. -/
  given : String := ""

/-- What is found at a path. -/
structure Found where
  path : String
  status : Option Status
  content : String := ""

namespace Job

/-- Read what is to be compared. -/
def opened (path : String) (status : Option Status) : Tool (Option Found) := do
  match status with
  | none => return some ⟨path, none, ""⟩
  | some s =>
    match ← contentOf path with
    | .text content => return some ⟨path, some s, content⟩
    | .notOpened e | .notRead e => do
      complainOf path e
      return none

def linesIn (text : String) : Array String :=
  ((Text.cutAfter '\n' text.toList).map String.ofList).toArray

def isBinary (text : String) : Bool :=
  (text.toList.take 4096).contains '\x00'

/-- Tell that files are the same, if that is told. -/
def tellSame (j : Job) (a b : String) : Tool Nat := do
  if j.tellsSameFiles then sayLine ("Files " ++ a ++ " and " ++ b ++ " are identical")
  return 0

/-- Compare two texts. -/
def texts (j : Job) (head : Option String) (a b : Found) : Tool Nat := do
  let binary := !j.asText && (isBinary a.content || isBinary b.content)
  if binary then
    if a.content == b.content then j.tellSame a.path b.path
    else
      sayLine ((if j.brief then "Files " else "Binary files ") ++ a.path ++ " and " ++ b.path ++ " differ")
      return 1
  else
    let isScript := j.telling.style == .editor || j.telling.style == .forward
    let whole (text : String) : String :=
      if isScript && text != "" && text.toList.getLast? != some '\n' then text ++ "\n" else text
    let lines (f : Found) : Array String := linesIn (whole f.content)
    let around :=
      match j.telling.style with
      | .context | .unified => j.telling.around
      | _ => 0
    let first := lines a
    let second := lines b
    let changes := j.sameness.changes around first second
    let side (f : Found) (label : Option String) (lines : Array String) : Side :=
      { name := f.path, label, time := (f.status.map (·.time)).getD 0, lines }
    let c : Comparison :=
      { j.telling with
        first := side a j.labels.head? first
        second := side b ((j.labels.drop 1).head?) second }
    let differ := changes.any fun h => !h.minor
    if j.brief && differ then
      sayLine ("Files " ++ a.path ++ " and " ++ b.path ++ " differ")
      return 1
    if differ || (!j.brief && j.telling.tellsSame) then
      match head with
      | some line => sayLine line
      | none => pure ()
      say (c.text changes)
    let mut status := if differ then 1 else 0
    if isScript && differ then
      for f in [a, b] do
        if whole f.content != f.content then
          complain (f.path ++ ": No newline at end of file\n")
          status := 2
    if !differ then
      let _ ← j.tellSame a.path b.path
    return status

/-- The line that stands before what is told of files in directories. -/
def headOf (j : Job) (a b : String) : String :=
  "diff" ++ j.given ++ " " ++ Comparison.nameText a ++ " " ++ Comparison.nameText b

/-- The status of a path, or none if it is not there; what is wrong otherwise is told. -/
def statusAt (j : Job) (path : String) : Tool (Except MachineFault Status) := do
  if path = "-" then ask (.descriptorStatus 0) else ask (.status path j.follows)

/-- Compare two files. -/
def files (j : Job) (inside : Bool) (a b : String) (first second : Option Status) : Tool Nat := do
  match ← opened a first, ← opened b second with
  | some x, some y => j.texts (if inside && !j.brief then some (j.headOf a b) else none) x y
  | _, _ => return 2

/-- Compare what is at two paths. `inside` is whether they were found in directories. -/
def places (j : Job) : Nat → Bool → String → String → Tool Nat
  | 0, _, _, _ => return 0
  | fuel + 1, inside, a, b => do
    let first ← j.statusAt a
    let second ← j.statusAt b
    let isAbsent (s : Except MachineFault Status) : Bool :=
      match s with
      | .error .notFound => true
      | _ => false
    let absentFirst := j.absentFirst && isAbsent first && !isAbsent second
    let absentSecond := j.absentSecond && isAbsent second && !isAbsent first
    let mut failed := false
    match first with
    | .error e =>
      if !absentFirst then
        complainOf a e
        failed := true
    | .ok _ => pure ()
    match second with
    | .error e =>
      if !absentSecond then
        complainOf b e
        failed := true
    | .ok _ => pure ()
    if failed then return 2
    let first := first.toOption
    let second := second.toOption
    let isDirectory (s : Option Status) : Bool :=
      match s with
      | some s => s.kind == .directory
      | none => false
    if isDirectory first && isDirectory second ||
        (isDirectory first && second.isNone) || (first.isNone && isDirectory second) then
      if (first.map (·.number)) == (second.map (·.number)) && !j.telling.tellsSame then return 0
      if inside && !j.recursive then
        sayLine ("Common subdirectories: " ++ a ++ " and " ++ b)
        return 0
      let names (path : String) (s : Option Status) : Tool (Option (List String)) := do
        if s.isNone then return some []
        match ← ask (.list path) with
        | .ok names => return some names
        | .error e => do
          complainOf path e
          return none
      match ← names a first, ← names b second with
      | some xs, some ys => do
        let isTaken (name : String) : Bool :=
          !(j.excluded.any fun p => Shell.Pattern.isMatch p.toList name.toList)
        let all := ((xs ++ ys.filter fun y => !(xs.contains y)).filter isTaken).mergeSort fun x y => decide (x ≤ y)
        let mut status := 0
        for name in all do
          ask .tick
          let inFirst := xs.contains name
          let inSecond := ys.contains name
          let next ←
            if !inFirst && !j.absentFirst then do
              sayLine ("Only in " ++ b ++ ": " ++ name)
              pure 1
            else if !inSecond && !j.absentSecond then do
              sayLine ("Only in " ++ a ++ ": " ++ name)
              pure 1
            else places j fuel true (below a name) (below b name)
          status := max status next
        return status
      | _, _ => return 2
    else if isDirectory first && !inside then
      if b = "-" then
        complain "cannot compare '-' to a directory"
        return 2
      places j fuel inside (below a (baseName b)) b
    else if isDirectory second && !inside then
      if a = "-" then
        complain "cannot compare '-' to a directory"
        return 2
      places j fuel inside a (below b (baseName a))
    else
      match first, second with
      | some s, some t =>
        if inside && (s.kind != t.kind || (s.kind != .file && s.kind != .link)) then
          sayLine ("File " ++ a ++ " is a " ++ kindText s ++ " while file " ++ b ++ " is a " ++ kindText t)
          return 1
        else if s.number = t.number && !j.telling.tellsSame then
          j.tellSame a b
        else j.files inside a b first second
      | _, _ => j.files inside a b first second

end Job

/-- A style that is chosen; it cannot be chosen after another. -/
def choose (chosen : Option Style) (s : Style) : Tool (Option Style) := do
  match chosen with
  | none => return some s
  | some t => if s = t then return chosen else misused "conflicting output style options"

/-- A number of lines around changes. -/
def aroundOf (text : String) : Tool Nat := do
  match text.toNat? with
  | some n => return n
  | none => misused ("invalid context length '" ++ text ++ "'")

/-- A pattern for lines. -/
def patternIn (text : String) : Tool Text.Regex.Read := do
  let spelling : Text.Spelling :=
    { extended := false, ignoresCase := false, strict := false, strictBraces := false, lenient := true }
  match Text.Regex.ofString spelling text with
  | .ok r => return r
  | .error fault => giveUp 2 (text ++ ": " ++ fault.message)

/-- Does a line begin a function? -/
def beginsFunction (line : String) : Bool :=
  match line.toList.head? with
  | some c => c.isAlpha || c == '$' || c == '_'
  | none => false

/-- What options have come to. -/
structure Settling where
  job : Job := {}
  style : Option Style := none
  /-- How many lines are told around changes, and how many if a style tells any at all. -/
  around : Option Nat := none
  digits : String := ""
  beginsFunctions : Bool := false

namespace Settling

def tell (s : Settling) (f : Telling → Telling) : Settling :=
  { s with job := { s.job with telling := f s.job.telling } }

def compare (s : Settling) (f : Sameness → Sameness) : Settling :=
  { s with job := { s.job with sameness := f s.job.sameness } }

def styled (s : Settling) (style : Style) : Tool Settling := do
  return { s with style := ← choose s.style style }

/-- At least so many lines are told around changes. -/
def atLeast (s : Settling) (n : Nat) : Settling :=
  { s with around := some (max n (s.around.getD 0)) }

def spaced (s : Settling) (next : SpaceRule → SpaceRule) : Settling :=
  s.compare fun x => { x with space := next x.space }

/-- The formats of lines, if they are how changes are told. -/
def formats (s : Settling) : String × String × String :=
  match s.style with
  | some (.formatted old new same) => (old, new, same)
  | _ => ("%L", "%L", "%L")

def formatted (s : Settling) (f : String × String × String) : Settling :=
  { s with style := some (.formatted f.1 f.2.1 f.2.2) }

/-- An option and what it comes to. -/
def take (s : Settling) (option : String) (value : Option String) : Tool Settling := do
  let text := value.getD ""
  match option with
  | "a" => return { s with job := { s.job with asText := true } }
  | "b" => return s.spaced fun r => if r == .none then r else .amount
  | "Z" =>
    return s.spaced fun r =>
      match r with
      | .all => .trailing
      | .expanded => .expandedTrailing
      | r => r
  | "E" =>
    return s.spaced fun r =>
      match r with
      | .all => .expanded
      | .trailing => .expandedTrailing
      | r => r
  | "w" => return s.spaced fun _ => .none
  | "B" => return s.compare fun x => { x with blankLines := true }
  | "i" => return s.compare fun x => { x with ignoresCase := true }
  | "I" => do
    let r ← patternIn text
    return s.compare fun x => { x with minor := r :: x.minor }
  | "c" | "C" => do
    let n ← if option == "C" || value.isSome then aroundOf text else pure 3
    return (← s.styled .context).atLeast n
  | "u" | "U" => do
    let n ← if option == "U" || value.isSome then aroundOf text else pure 3
    return (← s.styled .unified).atLeast n
  | "e" => s.styled .editor
  | "f" => s.styled .forward
  | "n" => s.styled .numbered
  | "y" => s.styled .beside
  | "normal" => s.styled .plain
  | "D" => s.styled (.merged text)
  | "old" => return let (_, b, c) := s.formats; s.formatted (text, b, c)
  | "new" => return let (a, _, c) := s.formats; s.formatted (a, text, c)
  | "same" => return let (a, b, _) := s.formats; s.formatted (a, b, text)
  | "line" => return s.formatted (text, text, text)
  | "F" => do
    let r ← patternIn text
    let isHead (line : String) : Bool :=
      (r.regex.search { text := line.toList.toArray, remembers := r.remembers } 0).isSome
    return s.tell fun t => { t with heads := some isHead }
  | "p" =>
    return { s.tell fun t => { t with heads := some beginsFunction } with beginsFunctions := true }
  | "T" => return s.tell fun t => { t with tabbed := true }
  | "W" =>
    match text.toNat? with
    | some (n + 1) => return s.tell fun t => { t with width := n + 1 }
    | _ => misused ("invalid width '" ++ text ++ "'")
  | "left" => return s.tell fun t => { t with leftOnly := true }
  | "changes" => return s.tell fun t => { t with changesOnly := true }
  | "q" => return { s with job := { s.job with brief := true } }
  | "s" => return { s with job := { s.job with tellsSameFiles := true } }
  | "r" => return { s with job := { s.job with recursive := true } }
  | "N" => return { s with job := { s.job with absentFirst := true, absentSecond := true } }
  | "P" => return { s with job := { s.job with absentFirst := true } }
  | "L" => return { s with job := { s.job with labels := s.job.labels ++ [text] } }
  | "x" => return { s with job := { s.job with excluded := text :: s.job.excluded } }
  | "X" => do
    match ← contentOf text with
    | .text content => return { s with job := { s.job with excluded := linesOf content ++ s.job.excluded } }
    | .notOpened e | .notRead e => giveUp 2 (text ++ ": " ++ e.message)
  | "nofollow" => return { s with job := { s.job with follows := false } }
  | option =>
    if option.toList.all Char.isDigit then return { s with digits := s.digits ++ option } else return s

/-- What is to be done in the end. -/
def toJob (s : Settling) : Job :=
  let style := s.style.getD (if s.beginsFunctions then .context else .plain)
  let least : Nat := if s.style.isNone && s.beginsFunctions then 3 else 0
  let around := max least (s.around.getD 0)
  let around := if s.digits = "" then around else max around (s.digits.toNat?.getD 0)
  { s.job with telling := { s.job.telling with style, around } }

end Settling

def choices : Choices where
  letters := "0123456789abBcC:dD:eEfF:hHiI:lL:nNpPqrsS:tTuU:wW:x:X:yZ"
  words := [("text", "a"), ("ignore-blank-lines", "B"), ("ignore-space-change", "b"), ("context::", "c"),
    ("ifdef:", "D"), ("ed", "e"), ("ignore-tab-expansion", "E"), ("forward-ed", "f"),
    ("show-function-line:", "F"), ("speed-large-files", "H"), ("ignore-case", "i"),
    ("ignore-matching-lines:", "I"), ("paginate", "l"), ("label:", "L"), ("rcs", "n"), ("new-file", "N"),
    ("unidirectional-new-file", "P"), ("show-c-function", "p"), ("brief", "q"), ("recursive", "r"),
    ("report-identical-files", "s"), ("starting-file:", "S"), ("expand-tabs", "t"), ("initial-tab", "T"),
    ("unified::", "u"), ("ignore-all-space", "w"), ("width:", "W"), ("exclude:", "x"),
    ("exclude-from:", "X"), ("side-by-side", "y"), ("ignore-trailing-space", "Z"), ("minimal", "d"),
    ("left-column", "left"), ("suppress-common-lines", "changes"), ("no-dereference", "nofollow"),
    ("normal", "normal"), ("strip-trailing-cr", "cr"), ("color::", "color"), ("old-line-format:", "old"),
    ("new-line-format:", "new"), ("unchanged-line-format:", "same"), ("line-format:", "line"),
    ("horizon-lines:", "horizon"), ("tabsize:", "tabs")]

/-- The options among arguments as they were given, with their values. -/
def givenWords (c : Choices) : Nat → List String → List String
  | 0, _ => []
  | _, [] => []
  | fuel + 1, a :: args =>
    let taken (rest : List String) : List String :=
      a :: args.take (args.length - rest.length) ++ givenWords c fuel rest
    match a.toList with
    | ['-', '-'] => [a]
    | '-' :: '-' :: word => taken (c.ofWord (.ofList word) args).2
    | '-' :: letter :: more => taken (c.ofLetters (letter :: more) args).2
    | _ => givenWords c fuel args

end Differing

def diff (args : List String) : Tool Nat := do
  let (settling, operands) ← Differing.choices.fold args ({} : Differing.Settling) (·.take)
  let words := Differing.givenWords Differing.choices (args.length + 1) args
  let job := { settling.toJob with given := String.join (words.map fun w => " " ++ nameText w) }
  match operands with
  | [a, b] => job.places depthLimit false a b
  | _ :: _ :: extra :: _ => misused ("extra operand '" ++ extra ++ "'")
  | _ => misused ("missing operand after '" ++ args.getLast?.getD "diff" ++ "'")

end Ensemble.Utility
