import Ensemble.Utility.Editing.Escape

/-!
# Ensemble.Utility.Editing.Reader

**Reading scripts**, piece by piece. A block may open in one piece and close in another, and a text that
ends with a backslash goes on in the next piece. How far a piece has been read when a fault is found is
part of what is told of it; so characters are taken one at a time, and put back where they belong to
what follows.
-/

namespace Ensemble.Utility.Editing

/-- A text that goes on: how it becomes an action, and its characters so far, the last first. -/
structure Pending where
  selector : Selector
  inverted : Bool
  toAction : List Char → Action
  text : List Char

/-- What has been read of a script. -/
structure Reading where
  rest : List Char := []
  source : Source := .expression 0
  taken : Nat := 0
  line : Nat := 0
  /-- Is this the first piece? -/
  isFirst : Bool := true
  extended : Bool := false
  /-- Are commands and files forbidden? -/
  guarded : Bool := false
  script : Script := {}
  /-- The blocks that are open, by their first step and where that is, the last first. -/
  blocks : List (Nat × Place) := []
  /-- The labels that are asked for, the last first. -/
  asked : List String := []
  pending : Option Pending := none
  /-- The files that are written to and read from by lines, the last first. -/
  targets : List String := []
  sources : List String := []
  /-- Does the script say that lines are not printed by themselves? -/
  silent : Bool := false

/-- The place up to which a script has been read. -/
def Reading.place (r : Reading) : Place :=
  ⟨r.source, r.line, r.taken⟩

/-- A step of reading. What has been read is kept after a fault. -/
abbrev Reader (α : Type) := ExceptT ScriptFault (StateM Reading) α

namespace Reader

/-! ### Characters -/

/-- Take the next character, if there is one. -/
def next : Reader (Option Char) := do
  let r ← get
  match r.rest with
  | [] => return none
  | c :: rest => do
    set { r with rest, taken := r.taken + 1, line := if c == '\n' then r.line + 1 else r.line }
    return some c

/-- Put a character back. -/
def back : Option Char → Reader Unit
  | none => return
  | some c => modify fun r =>
    { r with
      rest := c :: r.rest, taken := r.taken - 1, line := if c == '\n' then r.line - 1 else r.line }

/-- Take characters as long as they are of a kind. -/
def takeWhile (accepts : Char → Bool) : Reader (List Char) := do
  let r ← get
  let cs := r.rest.takeWhile accepts
  let rest := r.rest.drop cs.length
  set { r with rest, taken := r.taken + cs.length, line := r.line + cs.count '\n' }
  return cs

def isBlank (c : Char) : Bool :=
  c == ' ' || c == '\t'

def isSpace (c : Char) : Bool :=
  c == ' ' || (0x9 ≤ c.toNat && c.toNat ≤ 0xD)

/-- Take the next character that is no blank. -/
def nextUnblank : Reader (Option Char) := do
  let _ ← takeWhile isBlank
  next

/-- Take a number; without any digit, it is 0. -/
def number : Reader Nat := do
  return Nat.ofDigitChars 10 (← takeWhile Char.isDigit) 0

/-- Make sure that a command ends here. -/
def finish : Reader Unit := do
  match ← nextUnblank with
  | none | some '\n' | some ';' => return
  | some '\x7d' => back (some '\x7d')
  | some '#' => back (some '#')
  | some _ => throw .excess

/-- A file name, up to the end of the line. -/
def fileName : Reader String := do
  let _ ← takeWhile isBlank
  let name ← takeWhile (· != '\n')
  let _ ← next
  if name.isEmpty then throw .noFile
  return .ofList name

/-- A label. -/
def label : Reader String := do
  let _ ← takeWhile isBlank
  return .ofList (← takeWhile fun c => !isSpace c && c != ';' && c != '\x7d')

/-! ### Patterns -/

/-- Where a character stands in a regular expression: outside of brackets, or how far inside. -/
inductive Depth
  | outside
  /-- Behind the bracket, or behind the caret that follows it. -/
  | opening
  | opened
  | inside
  /-- In the name of a class. -/
  | named (mark : Char)
deriving DecidableEq

/-- The text up to a mark, on one line. In a regular expression, brackets may hold the mark. A backslash
gives the mark its own meaning. -/
def upTo (mark : Char) (isRegex : Bool) : Nat → Depth → List Char → Reader (Option (List Char))
  | 0, _, _ => return none
  | fuel + 1, depth, done => do
    match ← next with
    | none => return none
    | some '\n' => do
      back (some '\n')
      return none
    | some c =>
      let inside : Reader (Option (List Char)) := do
        if c == '[' then
          match ← next with
          | some d => do
            if d == '.' || d == ':' || d == '=' then
              upTo mark isRegex fuel (.named d) (d :: c :: done)
            else do
              back (some d)
              upTo mark isRegex fuel .inside (c :: done)
          | none => return none
        else upTo mark isRegex fuel .inside (c :: done)
      match depth with
      | .outside =>
        if c == mark then return some done.reverse
        else if c == '\x5c' then
          match ← next with
          | none => return none
          | some d =>
            if d == 'n' && isRegex then upTo mark isRegex fuel .outside ('\n' :: done)
            else if d == '\n' || (d == mark && (isRegex || d != '&')) then
              upTo mark isRegex fuel .outside (d :: done)
            else upTo mark isRegex fuel .outside (d :: c :: done)
        else upTo mark isRegex fuel (if c == '[' && isRegex then .opening else .outside) (c :: done)
      | .opening => if c == '^' then upTo mark isRegex fuel .opened (c :: done) else inside
      | .opened => inside
      | .inside => if c == ']' then upTo mark isRegex fuel .outside (c :: done) else inside
      | .named m => do
        if c == m && (← get).rest.head? == some ']' then
          let _ ← next
          upTo mark isRegex fuel .inside (']' :: c :: done)
        else upTo mark isRegex fuel depth (c :: done)

/-- The text up to a mark. -/
def textUpTo (mark : Char) (isRegex : Bool) : Reader (Option (List Char)) := do
  upTo mark isRegex ((← get).rest.length + 1) .outside []

/-- A pattern, given its text; the empty text is the pattern that was used last. So many groups of it
are asked for, if a match is to be replaced. -/
def pattern (text : List Char) (ignoresCase manyLines : Bool) (groups : Option Nat) :
    Reader (Option Pattern) := do
  if text.isEmpty then
    if ignoresCase || manyLines then throw .emptyFlags
    return none
  let glyphs ← liftM (Glyph.ofText text)
  let spelling : Text.Spelling :=
    { extended := (← get).extended, ignoresCase, linesApart := manyLines }
  match Text.Regex.ofString spelling (.ofList (glyphs.flatMap Glyph.spelled)) with
  | .error f => throw (.regex f)
  | .ok r => do
    match groups with
    | some n => if r.groups < n then throw (.reference n)
    | none => pure ()
    return some {
      regex := r.regex, groups := r.groups, remembers := r.remembers || groups.any (0 < ·)
      ignoresCase, manyLines, replaced := groups.isSome }

/-! ### Addresses -/

/-- The address of a pattern, behind the mark that opens it. -/
def patternAddress (mark : Char) : Reader Bound := do
  match ← textUpTo mark true with
  | none => throw .openAddress
  | some text => do
    let flags ← takeWhile fun c => isBlank c || c == 'I' || c == 'M'
    return .address (.fits (← pattern text (flags.contains 'I') (flags.contains 'M') none))

/-- The address that begins with a character, if one does. -/
def address? (c : Option Char) : Reader (Option Bound) := do
  match c with
  | some '/' => return some (← patternAddress '/')
  | some '\x5c' => do
    match ← next with
    | some mark => return some (← patternAddress mark)
    | none => throw .openAddress
  | some '$' => return some (.address .last)
  | some '+' => do
    let _ ← takeWhile isBlank
    return some (.further (← number))
  | some '~' => do
    let _ ← takeWhile isBlank
    return some (.multiple (← number))
  | some d => do
    if !d.isDigit then return none
    back (some d)
    let first ← number
    match ← nextUnblank with
    | some '~' => do
      let _ ← takeWhile isBlank
      let step ← number
      return some (.address (if step = 0 then .line first else .every first step))
    | c => do
      back c
      return some (.address (.line first))
  | none => return none

/-- The selector that begins with a character, and the character behind it. -/
def selector (c : Option Char) : Reader (Selector × Option Char) := do
  match ← address? c with
  | none => return (.all, c)
  | some (.further _) | some (.multiple _) => throw .firstBound
  | some (.address a) => do
    let checked (s : Selector) (c : Option Char) : Reader (Selector × Option Char) := do
      match s with
      | .single (.line 0) => throw .lineZero
      | .range (.line 0) (.address (.fits _)) => return (s, c)
      | .range (.line 0) _ => throw .lineZero
      | _ => return (s, c)
    match ← nextUnblank with
    | some ',' => do
      match ← address? (← nextUnblank) with
      | none => throw .comma
      | some b => checked (.range a b) (← nextUnblank)
    | c => checked (.single a) c

/-! ### Steps -/

/-- Add a step to the script. -/
def push (s : Step) : Reader Unit :=
  modify fun r => { r with script := { r.script with steps := r.script.steps.push s } }

/-- The rest of a text, and whether it goes on in the next piece. -/
def textLines : Nat → List Char → Reader (List Char × Bool)
  | 0, done => return (done, false)
  | fuel + 1, done => do
    match ← next with
    | none | some '\n' => return ('\n' :: done, false)
    | some '\x5c' => do
      match ← next with
      | none => return ('\n' :: done, true)
      | some c => textLines fuel (c :: '\x5c' :: done)
    | some c => textLines fuel (c :: done)

/-- Complete a text, and add the step that it is for. -/
def closeText (p : Pending) : Reader Unit := do
  let glyphs ← liftM (Glyph.ofText p.text.reverse)
  push ⟨p.selector, p.inverted, p.toAction (glyphs.map Glyph.char)⟩

/-- Read a text up to its end, or up to the end of the piece. -/
def goOnWithText (p : Pending) : Reader Unit := do
  match ← textLines ((← get).rest.length + 1) p.text with
  | (text, true) => modify fun r => { r with pending := some { p with text } }
  | (text, false) => do
    modify fun r => { r with pending := none }
    closeText { p with text }

/-- Read a text, of which the first character has been taken. -/
def text (p : Pending) (c : Option Char) : Reader Unit := do
  match c with
  | none => throw .text
  | some '\x5c' => do
    match ← next with
    | none => modify fun r => { r with pending := some p }
    | some '\n' => goOnWithText p
    | c => do
      back c
      goOnWithText p
  | c => do
    back c
    goOnWithText p

/-- A file that is written to. -/
def target : Reader Target := do
  match ← fileName with
  | "/dev/stdout" => return .output
  | "/dev/stderr" => return .errors
  | name => do
    modify fun r => { r with targets := name :: r.targets }
    return .file name

/-- What stands behind a replacement. -/
structure Flags where
  ignoresCase : Bool := false
  manyLines : Bool := false
  every : Bool := false
  prints : Bool := false
  printsFirst : Bool := false
  runs : Bool := false
  nth : Option Nat := none
  target : Option Target := none

/-- Read what stands behind a replacement. -/
def flags : Nat → Flags → Reader Flags
  | 0, f => return f
  | fuel + 1, f => do
    match ← next with
    | none | some '\n' | some ';' => return f
    | some '\x7d' => do
      back (some '\x7d')
      return f
    | some '#' => do
      back (some '#')
      return f
    | some ' ' | some '\t' => flags fuel f
    | some 'i' | some 'I' => flags fuel { f with ignoresCase := true }
    | some 'm' | some 'M' => flags fuel { f with manyLines := true }
    | some 'e' => flags fuel { f with runs := true }
    | some 'p' =>
      if f.prints then throw .manyPrints else flags fuel { f with prints := true, printsFirst := !f.runs }
    | some 'g' => if f.every then throw .manyEverys else flags fuel { f with every := true }
    | some 'w' => return { f with target := some (← target) }
    | some '\r' => do
      match ← next with
      | some '\n' => return f
      | _ => throw .flag
    | some c => do
      if !c.isDigit then throw .flag
      if f.nth.isSome then throw .manyNumbers
      back (some c)
      let n ← number
      if n = 0 then throw .numberZero
      flags fuel { f with nth := some n }

/-- A substitution, behind its letter. -/
def substitution : Reader Substitution := do
  match ← next with
  | none => throw .openSubstitution
  | some mark => do
    match ← textUpTo mark true with
    | none => throw .openSubstitution
    | some regex => do
      match ← textUpTo mark false with
      | none => throw .openSubstitution
      | some replacement => do
        let parts := Composition.parts (← liftM (Glyph.ofText replacement))
        let f ← flags ((← get).rest.length + 1) {}
        let s : Substitution := {
          pattern := none, parts, nth := f.nth.getD 1, every := f.every, prints := f.prints
          printsFirst := f.printsFirst, runs := f.runs, target := f.target }
        let p ← pattern regex f.ignoresCase f.manyLines (some s.greatest)
        if f.runs && (← get).guarded then throw .forbidden
        return { s with pattern := p }

/-- The characters that replace others, behind the letter. -/
def pairs : Reader (List (Char × Char)) := do
  match ← next with
  | none => throw .openReplacement
  | some mark => do
    match ← textUpTo mark false with
    | none => throw .openReplacement
    | some a => do
      let a ← liftM (Glyph.ofText a)
      match ← textUpTo mark false with
      | none => throw .openReplacement
      | some b => do
        let b ← liftM (Glyph.ofText b)
        if a.length != b.length then throw .lengths
        finish
        return ((a.map Glyph.char).zip (b.map Glyph.char)).reverse

/-- A number that may stand behind a command. -/
def argument? : Reader (Option Nat) := do
  let c ← nextUnblank
  back c
  let n ← if c.any Char.isDigit then pure (some (← number)) else pure none
  finish
  return n

/-- A label to which a step leads. -/
def askedLabel : Reader String := do
  let name ← label
  modify fun r => { r with asked := name :: r.asked }
  return name

/-- The version of the commands that are understood. -/
def version : List Nat := [4, 9]

/-- Is a version a later one? -/
def isLater : List Nat → List Nat → Bool
  | [], _ => false
  | _ :: _, [] => true
  | a :: as, b :: bs => if a = b then isLater as bs else b < a

/-- Make sure that files and commands are allowed. -/
def unguarded : Reader Unit := do
  if (← get).guarded then throw .forbidden

/-- The action that a letter stands for. -/
def action (s : Selector) (letter : Char) : Reader Action := do
  let plain (a : Action) : Reader Action := do
    finish
    return a
  match letter with
  | '=' => plain .number
  | 'd' => plain .delete
  | 'D' => plain .deleteFirst
  | 'F' => plain .name
  | 'g' => plain .get
  | 'G' => plain .getMore
  | 'h' => plain .hold
  | 'H' => plain .holdMore
  | 'n' => plain .next
  | 'N' => plain .nextMore
  | 'p' => plain .print
  | 'P' => plain .printFirst
  | 'x' => plain .exchange
  | 'z' => plain .clear
  | 'b' => return .jump (← askedLabel)
  | 't' => return .jumpIf true (← askedLabel)
  | 'T' => return .jumpIf false (← askedLabel)
  | 'q' | 'Q' => do
    if s.isRange then throw .twoAddresses
    return .quit ((← argument?).getD 0) (letter == 'Q')
  | 'l' => return .list (← argument?)
  | 'L' => do
    let _ ← argument?
    return .unable 'L'
  | 'r' => do
    unguarded
    return .readFile (← fileName)
  | 'R' => do
    unguarded
    let name ← fileName
    modify fun r => { r with sources := name :: r.sources }
    return .readLine name
  | 'w' => do
    unguarded
    return .write (← target)
  | 'W' => do
    unguarded
    return .writeFirst (← target)
  | 's' => return .substitute (← substitution)
  | 'y' => return .replace (← pairs)
  | c => throw (.command c)

/-- Take a comment. The first one of a script may say that lines are not printed by themselves. -/
def comment : Reader Unit := do
  let c ← next
  let r ← get
  if c == some 'n' && r.isFirst && r.taken = 2 then set { r with silent := true }
  back c
  let _ ← takeWhile (· != '\n')
  let _ ← next

/-- Read the command that begins with a character. -/
def command (c : Option Char) : Reader Unit := do
  let (s, c) ← selector c
  let (inverted, c) ←
    if c == some '!' then do
      let c ← nextUnblank
      if c == some '!' then throw .manyInversions
      pure (true, c)
    else pure (false, c)
  let pending (toAction : List Char → Action) : Pending := ⟨s, inverted, toAction, []⟩
  match c with
  | none => throw .noCommand
  | some '#' => do
    if !s.isAll then throw .commentAddress
    comment
  | some ':' => do
    if !s.isAll then throw .labelAddress
    let name ← label
    if name = "" then throw .noLabel
    modify fun r =>
      { r with script := { r.script with labels := (name, r.script.steps.size) :: r.script.labels } }
  | some '\x7b' => do
    modify fun r => { r with blocks := (r.script.steps.size, r.place) :: r.blocks }
    push ⟨s, inverted, .block⟩
  | some '\x7d' => do
    match (← get).blocks with
    | [] => throw .closedBlock
    | (opened, _) :: blocks => do
      if !s.isAll then throw .closedBlockAddress
      finish
      modify fun r =>
        let closings := (opened, r.script.steps.size) :: r.script.closings
        { r with blocks, script := { r.script with closings } }
  | some 'v' => do
    let name ← label
    let numbers := (name.splitOn ".").map fun s => Nat.ofDigitChars 10 (s.toList.takeWhile Char.isDigit) 0
    if name != "" && isLater numbers version then throw .version
  | some 'a' => text (pending .append) (← nextUnblank)
  | some 'i' => text (pending .insert) (← nextUnblank)
  | some 'c' => text (pending .change) (← nextUnblank)
  | some 'e' => do
    unguarded
    match ← nextUnblank with
    | none | some '\n' => push ⟨s, inverted, .run []⟩
    | c => text (pending .run) c
  | some letter => push ⟨s, inverted, ← action s letter⟩

/-- Read commands up to the end of the piece. -/
def commands : Nat → Reader Unit
  | 0 => return
  | fuel + 1 => do
    let _ ← takeWhile fun c => isSpace c || c == ';'
    match ← next with
    | none => return
    | c => do
      command c
      commands fuel

/-- Read a piece of a script. -/
def piece (source : Source) (s : String) : Reader Unit := do
  let line := match source with | .expression _ => 0 | .file _ => 1
  modify fun r => { r with rest := s.toList, source, taken := 0, line }
  match (← get).pending with
  | some p => goOnWithText p
  | none => pure ()
  commands (s.length + 1)
  modify fun r => { r with isFirst := false }

end Reader

/-- The script that has been read, all of whose pieces have been. The label that is missing is told if
one is. -/
def Reading.close (r : Reading) : Except (ScriptFault × Place) (Script × Option String) := do
  match r.blocks with
  | (_, p) :: _ => throw (.openBlock, { p with taken := 0 })
  | [] => pure ()
  let r ←
    match r.pending with
    | none => pure r
    | some p =>
      match (Reader.closeText p).run.run r with
      | (.ok _, r) => pure { r with pending := none }
      | (.error f, r) => throw (f, r.place)
  let missing := r.asked.find? fun name => name != "" && (r.script.labels.lookup name).isNone
  return ({ r.script with finish := { r.place with taken := 0 } }, missing)

end Ensemble.Utility.Editing
