import Ensemble.Utility.Making.Expansion
import Ensemble.Utility.Making.Rule

/-!
# Ensemble.Utility.Making.Reader

**Reading makefiles** line by line. Variables are set and conditions are decided as they are read;
targets are expanded then, too, but recipes are kept as they are. A recipe goes on as long as lines
begin with its mark, and it is put down with its rule when the rule has ended.

Reading can ask for more reading: of other files, and of texts that a function makes. `readersFrom`
ties that knot.
-/

/-! ### Conditions

**Conditions** in makefiles. Lines are passed over while one of the branches around them does not hold;
a condition is only looked at where lines are read.
-/

namespace Ensemble.Utility.Making

/-- What is done with the lines of a condition. -/
inductive Reading
  | taken
  /-- No branch has held so far. -/
  | waiting
  /-- A branch has held before. -/
  | over
deriving DecidableEq, Repr

/-- A condition, of which a branch is being read. -/
structure Branch where
  reading : Reading
  isLast : Bool := false
deriving DecidableEq, Repr

/-- Are lines passed over? -/
def passesOver (branches : List Branch) : Bool :=
  branches.any (·.reading != .taken)

/-- The text up to a comma, or up to a closing parenthesis, outside of parentheses. -/
def sideUpTo (stop : Char) : Nat → List Char → List Char → Option (List Char × List Char)
  | _, [], _ => none
  | depth, c :: cs, side =>
    if c == stop && depth = 0 then some (side.reverse, cs)
    else
      let depth := if c == '(' then depth + 1 else if c == ')' then depth - 1 else depth
      sideUpTo stop depth cs (c :: side)

/-- The two sides of a comparison, and what is behind them. -/
def sides? (text : List Char) : Option (List Char × List Char × List Char) :=
  let quoted? (text : List Char) : Option (List Char × List Char) :=
    match text with
    | q :: cs => if q == '"' || q == '\x27' then Text.splitFirst q cs else none
    | [] => none
  match text with
  | '(' :: cs => do
    let (a, rest) ← sideUpTo ',' 0 cs []
    let (b, rest) ← sideUpTo ')' 0 (rest.dropWhile isSpace) []
    return ((a.reverse.dropWhile isBlank).reverse, b, rest)
  | text => do
    let (a, rest) ← quoted? text
    let rest := rest.dropWhile isSpace
    let (b, rest) ←
      match rest with
      | ')' :: cs => sideUpTo ')' 0 (cs.dropWhile isSpace) []
      | rest => quoted? rest
    return (a, b, rest)

/-- Tell of text behind a directive. -/
def tellExtra (spot : Option Spot) (word : String) : Making Unit :=
  tellAt spot ("extraneous text after '" ++ word ++ "' directive")

/-- Does a condition hold? None is no condition. -/
def condition? (go : Expand) (spot : Option Spot) (word : String) (text : List Char) :
    Making (Option Bool) := do
  if word = "ifdef" || word = "ifndef" then
    let (name, rest) := firstWord (← go text).toList
    if !rest.isEmpty then return none
    let isSet := (((← get).lookup? name).map (·.value != "")).getD false
    return some (isSet == (word == "ifdef"))
  else
    match sides? text with
    | none => return none
    | some (a, b, rest) => do
      let a ← go a
      if !(rest.dropWhile isSpace).isEmpty then tellExtra spot word
      let b ← go b
      return some ((a == b) == (word == "ifeq"))

/-- Take a line into account that belongs to a condition. -/
def branchLine (go : Expand) (spot : Option Spot) (branches : List Branch) (word : String)
    (rest : List Char) : Making (Option (List Branch)) := do
  let opened (outer : List Branch) (word : String) (rest : List Char) : Making (Option Branch) := do
    if passesOver outer then return some ⟨.waiting, false⟩
    return (← condition? go spot word rest).map fun holds => ⟨if holds then .taken else .waiting, false⟩
  let isCondition (word : String) : Bool := ["ifdef", "ifndef", "ifeq", "ifneq"].contains word
  if isCondition word then
    match ← opened branches word rest with
    | some b => return some (b :: branches)
    | none => refuseAt spot "invalid syntax in conditional"
  else if word = "endif" then
    if !rest.isEmpty then tellExtra spot word
    match branches with
    | [] => refuseAt spot "extraneous 'endif'"
    | _ :: outer => return some outer
  else if word = "else" then
    match branches with
    | [] => refuseAt spot "extraneous 'else'"
    | b :: outer => do
      if b.isLast then refuseAt spot "only one 'else' per conditional"
      let b := { b with reading := match b.reading with | .taken => .over | .waiting => .taken | .over => .over }
      if rest.isEmpty then return some ({ b with isLast := true } :: outer)
      let (word, behind) := firstWord rest
      let next ← if isCondition word then opened (b :: outer) word behind else pure none
      match next with
      | none => do
        tellExtra spot "else"
        return some (b :: outer)
      | some n =>
        let reading := if b.reading = .over then .over else n.reading
        return some ({ b with reading } :: outer)
  else return none

end Ensemble.Utility.Making

/-! ### Reading -/

namespace Ensemble.Utility.Making

/-! ### Lines -/

/-- A line, with those that it goes on in. -/
structure FullLine where
  number : Nat
  text : List Char

/-- Does a line go on in the next one? -/
def goesOn (line : List Char) : Bool :=
  (line.reverse.takeWhile (· == '\x5c')).length % 2 = 1

/-- The lines that belong to a line, and those behind them. -/
def fullLine : List Char → List (List Char) → List (List Char) × List (List Char)
  | line, [] => ([line], [])
  | line, next :: lines =>
    if goesOn line then
      let (more, rest) := fullLine next lines
      (line :: more, rest)
    else ([line], next :: lines)

/-- Join lines that go on; in a text that is no file all lines have one number. -/
def fullLines (isFile : Bool) : Nat → Nat → List (List Char) → List FullLine
  | 0, _, _ => []
  | _, _, [] => []
  | fuel + 1, number, line :: lines =>
    let (parts, rest) := fullLine line lines
    ⟨number, ['\n'].intercalate parts⟩ ::
      fullLines isFile fuel (if isFile then number + parts.length else number) rest

/-- The lines of a file. -/
def linesOfFile (text : String) : List (List Char) :=
  let lines := (Text.cutAfter '\n' text.toList).map fun l =>
    match (bare '\n' l).reverse, l.getLast? with
    | '\x0d' :: cs, some '\n' => cs.reverse
    | cs, _ => cs.reverse
  match lines with
  | ('\xef' :: '\xbb' :: '\xbf' :: cs) :: rest => cs :: rest
  | lines => lines

/-- The lines of a text. -/
def linesOfText (text : String) : List (List Char) :=
  (Text.cutAfter '\n' text.toList).map fun l => bare '\n' l

/-! ### Words of rules -/

/-- What a word of a rule is. -/
inductive WordKind
  | usual
  /-- It ends the targets. -/
  | colon
deriving DecidableEq, Repr

/-- The rest of a word, given what has been read of it, reversed, and what stands behind it. -/
def restOfWord : Nat → List Char → List Char → List Char × List Char
  | 0, word, cs => (word.reverse, cs)
  | _, word, [] => (word.reverse, [])
  | fuel + 1, word, c :: cs =>
    if isSpace c || c == '=' || c == ':' then (word.reverse, c :: cs)
    else
      match c, cs with
      | '?', '=' :: _ | '+', '=' :: _ | '&', ':' :: _ => (word.reverse, c :: cs)
      | '$', [] => (('$' :: word).reverse, [])
      | '$', d :: ds =>
        if d == '(' || d == '\x7b' then
          match upToClosing d 0 ds [] with
          | some (inside, rest) =>
            restOfWord fuel (closingOf d :: (inside.reverse ++ d :: c :: word)) rest
          | none => (word.reverse ++ c :: cs, [])
        else restOfWord fuel (d :: c :: word) ds
      | '\x5c', d :: ds =>
        if d == ':' || d == ';' || d == '=' || d == '\x5c' then restOfWord fuel (d :: c :: word) ds
        else restOfWord fuel (c :: word) cs
      | _, _ => restOfWord fuel (c :: word) cs

/-- The next word of a rule, and what stands behind it. -/
def nextWord? (text : List Char) : Option (WordKind × List Char × List Char) :=
  match text.dropWhile isBlank with
  | [] => none
  | ';' :: cs => some (.usual, [';'], cs)
  | '=' :: cs => some (.usual, ['='], cs)
  | ':' :: '=' :: cs => some (.usual, [':', '='], cs)
  | ':' :: ':' :: '=' :: cs => some (.usual, [':', ':', '='], cs)
  | ':' :: ':' :: cs => some (.colon, [':', ':'], cs)
  | ':' :: cs => some (.colon, [':'], cs)
  | '&' :: ':' :: ':' :: cs => some (.colon, ['&', ':', ':'], cs)
  | '&' :: ':' :: cs => some (.colon, ['&', ':'], cs)
  | '+' :: '=' :: cs => some (.usual, ['+', '='], cs)
  | '?' :: '=' :: cs => some (.usual, ['?', '='], cs)
  | '!' :: '=' :: cs => some (.usual, ['!', '='], cs)
  | c :: cs =>
    let (word, rest) :=
      if isSpace c then ([c], cs)
      else
        match restOfWord (cs.length + 2) [] (c :: cs) with
        | ([], _) => ([c], cs)
        | found => found
    some (.usual, word, rest)

/-- The beginning of a rule, up to its colon. -/
structure Head where
  /-- What stands before the colon, and behind it as far as it has been expanded. -/
  targets : List Char
  behind : List Char := []
  /-- Has the colon been found, and are the targets made together? -/
  isFound : Bool := false
  together : Bool := false
  /-- What has not been expanded. -/
  rest : List Char := []
  command : Option (List Char) := none

/-- Expand a line word by word up to its colon. -/
def headFrom (go : Expand) (command : Option (List Char)) :
    Nat → List Char → List Char → Making Head
  | 0, before, rest => return { targets := before, rest, command }
  | fuel + 1, before, text => do
    match nextWord? text with
    | none => return { targets := before, command }
    | some (_, word, rest) => do
      let piece := (← go word).toList
      let (piece, rest, command) ←
        match command, cutAt (· == ';') piece with
        | none, (first, some (_, behind)) => do
          let more := (← go rest).toList
          pure (first, [], some (behind ++ more))
        | command, (text, none) => pure (if command.isNone then text else piece, rest, command)
        | command, _ => pure (piece, rest, command)
      match cutAt (· == ':') piece with
      | (first, some (_, behind)) =>
        let together := first.getLast? == some '&'
        return {
          targets := before ++ (if together then first.dropLast else first), behind, isFound := true
          together, rest, command }
      | (piece, none) => headFrom go command fuel (before ++ piece ++ [' ']) rest

/-! ### Pages -/

/-- A variable that is set by the lines up to an end. -/
structure OpenDefinition where
  name : String
  assignment : Assignment
  how : Setting
  spot : Option Spot
  /-- The lines, the last first. -/
  lines : List (List Char) := []
  /-- How many ends are to come that belong to other definitions? -/
  depth : Nat := 0

/-- What has been read of a file. -/
structure Page where
  rule : Option OpenRule := none
  /-- Has a rule been read that names no target? -/
  isTargetless : Bool := false
  branches : List Branch := []
  definition : Option OpenDefinition := none
  /-- Are lines passed over up to the end of a definition? -/
  passesDefinition : Bool := false

/-- How other texts are read from within one. -/
structure Readers where
  evaluate : Evaluate
  /-- Reads a file, which may be missing. -/
  takeIn : Bool → String → Making Unit

/-- How texts are expanded. -/
def Readers.expand (r : Readers) : Expand :=
  expandFrom r.evaluate expansionDepth

/-- A page whose rule has been put down. -/
def Page.ended (p : Page) : Making Page := do
  closeRule p.rule
  return { p with rule := none, isTargetless := false }

/-- Read a rule. -/
def ruleLine (r : Readers) (p : Page) (spot : Option Spot) (raw : List Char) : Making Page := do
  let b ← get
  let (line, command) : List Char × Option (List Char) :=
    match cutOutside (fun c => c == ';' || c == '#') raw with
    | (line, some (';', command)) => (line, some command)
    | (line, _) => (line, none)
  let line := flattened b.isPosix (line.length + 1) line []
  match nextWord? line with
  | none => do
    if command.isSome then refuseAt spot "missing rule before recipe"
    return p
  | some (.colon, _, _) => return { p with isTargetless := true }
  | some (.usual, _, _) => do
    let h ← headFrom r.expand command (line.length + 1) [] line
    if !h.isFound then
      if h.targets.all isSpace then return p
      let isIndented := b.mark == '\t' && (List.replicate 8 ' ').isPrefixOf line
      refuseAt spot ("missing separator" ++
        (if isIndented then " (did you mean TAB instead of 8 spaces?)" else ""))
    let targets ← filesOf (namesIn h.targets)
    if targets.isEmpty then return { p with isTargetless := true }
    let (isDouble, behind) := match h.behind with
      | ':' :: cs => (true, cs)
      | cs => (false, cs)
    match assignment? true (behind ++ h.rest) with
    | some a => do
      let tail := match command with
        | some c => ';' :: flattened b.isPosix (c.length + 1) c []
        | none => []
      setForTargets r.expand targets { a with text := a.text ++ tail } spot
      return p
    | none => do
      let rest := match cutAt (· == '=') h.rest with
        | (first, none) => first
        | (first, some (c, more)) => first ++ c :: more
      let text := behind ++ (← r.expand rest).toList
      let (text, command) := match h.command, cutAt (· == ';') text with
        | none, (first, some (_, command)) => (first, some command)
        | none, (first, none) => (first, none)
        | command, _ => (text, command)
      let (pattern, text) ←
        match (cutAt (· == ':') text).2 with
        | none => pure (none, text)
        | some _ => do
          let (names, rest) := namesUpTo (· == ':') (text.length + 1) text []
          match names with
          | [] => refuseAt spot "missing target pattern"
          | [name] =>
            match Pattern.ofChars (fileName name).toList with
            | .word _ => refuseAt spot "target pattern contains no '%'"
            | pattern => pure (some pattern, rest.drop 1)
          | _ => refuseAt spot "multiple target patterns"
      noteGoal targets
      return { p with rule := some {
        targets, together := h.together, pattern, prerequisites := trimmed text, isDouble, spot, mark := b.mark
        lines := command.toList.map String.ofList
        recipeSpot := if command.isSome then spot else none } }

/-- Set whether started programs get a variable. -/
def setPassing (passing : Passing) (name : String) : Making Unit := do
  let b ← get
  let v : Variable := (b.vars.lookup name).getD { recursive := false, spot := b.spot }
  set (b.withVariable name { v with passing })

/-- Take a list of directories for a pattern into account. -/
def setPlaces (text : List Char) : Making Unit := do
  let (pattern, directories) := firstWord text
  modify fun b =>
    if pattern = "" then { b with places := [] }
    else
      let p := Pattern.ofString pattern
      if directories.isEmpty then { b with places := b.places.filter (·.1 != p) }
      else
        match directoriesIn directories with
        | [] => b
        | dirs => { b with places := b.places ++ [(p, dirs)] }

/-- Do what a line does with a variable. -/
def assignLine (r : Readers) (p : Page) (spot : Option Spot) (a : Assignment) : Making Page := do
  let p ← p.ended
  let origin := if a.isOverriding then Origin.override else .file
  match a.deed with
  | .undefine => do
    forgetVariable (← variableName r.expand spot a.text) origin
    return p
  | .set => do
    match ← setAs r.expand none a.text origin spot with
    | some name => adjustVariable none name (flagged a)
    | none => pure ()
    return p
  | .define => do
    let (name, how) ←
      match definition? a.text with
      | none => pure (a.text, Setting.recursive)
      | some d => do
        if !d.value.isEmpty then tellExtra spot "define"
        pure (d.name, d.how)
    let name ← variableName r.expand spot name
    return { p with definition := some { name, assignment := a, how, spot } }
where
  /-- A variable as the words before its name say. -/
  flagged (a : Assignment) (v : Variable) : Variable :=
    let v := if a.isExported then { v with passing := .always } else v
    if a.isPrivate then { v with isPrivate := true } else v

/-- Read a line that belongs to a definition. -/
def definitionLine (r : Readers) (p : Page) (d : OpenDefinition) (spot : Option Spot) (raw : List Char) :
    Making Page := do
  let b ← get
  let line := flattened b.isPosix (raw.length + 1) raw []
  let depth ←
    if line.head? == some b.mark then pure (d.depth + 1)
    else do
      let text := line.dropWhile isSpace
      let word := String.ofList (text.takeWhile (!isBlank ·))
      if word = "define" then pure (d.depth + 2)
      else if word = "endef" then do
        if !(uncommented (text.drop 5)).all isSpace then tellExtra spot "endef"
        pure d.depth
      else pure (d.depth + 1)
  match depth with
  | 0 => do
    let a := d.assignment
    setVariable r.expand none d.name d.how (.ofList (['\n'].intercalate d.lines.reverse))
      (if a.isOverriding then .override else .file) d.spot
    adjustVariable none d.name (assignLine.flagged a)
    return { p with definition := none }
  | depth + 1 => return { p with definition := some { d with lines := line :: d.lines, depth } }

/-- Read a line that is no part of a recipe. -/
def plainLine (r : Readers) (p : Page) (spot : Option Spot) (raw : List Char) : Making Page := do
  let b ← get
  let line := (uncommented (flattened b.isPosix (raw.length + 1) raw [])).dropWhile isSpace
  match if p.passesDefinition then none else assignment? false line with
  | some a =>
    if passesOver p.branches then return { p with passesDefinition := a.deed = .define }
    assignLine r p spot a
  | none => do
    if line.isEmpty then return p
    let (word, rest) := firstWord line
    if p.passesDefinition then
      return { p with passesDefinition := !(word = "endef" && rest.isEmpty) }
    match ← branchLine r.expand spot p.branches word rest with
    | some branches => return { p with branches }
    | none => do
      if passesOver p.branches then return p
      match word with
      | "export" | "unexport" => do
        let p ← p.ended
        if rest.isEmpty then modify fun b => { b with exportsAll := word = "export" }
        else
          let passing := if word = "export" then Passing.always else .never
          for name in words (← r.expand rest) do setPassing passing name
        return p
      | "vpath" => do
        let p ← p.ended
        setPlaces (← r.expand rest).toList
        return p
      | "include" | "-include" | "sinclude" => do
        let p ← p.ended
        for name in ← filesOf (namesIn (← r.expand rest).toList) do
          r.takeIn (word != "include") name
          modify fun b => { b with spot }
        return p
      | _ => do
        if raw.head? == some b.mark then refuseAt spot "recipe commences before first target"
        ruleLine r (← p.ended) spot raw

/-- Read a line. -/
def readLine (r : Readers) (p : Page) (spot : Option Spot) (raw : List Char) : Making Page := do
  let b ← get
  match p.definition with
  | some d => definitionLine r p d spot raw
  | none => do
    match raw with
    | [] => return p
    | c :: command =>
      if c == b.mark && p.isTargetless then return p
      match if c == b.mark then p.rule else none with
      | some o => do
        if passesOver p.branches then return p
        return { p with rule := some { o with
          lines := .ofList command :: o.lines, recipeSpot := o.recipeSpot.orElse fun _ => spot } }
      | none => plainLine r p spot raw

/-- Read lines of a file, or of a text that is read at one place. -/
def readLines (r : Readers) (file : Option String) (lines : List FullLine) : Making Unit := do
  let before := (← get).spot
  let spotOf (n : Nat) : Option Spot :=
    match file with
    | some file => some ⟨file, n⟩
    | none => before
  let mut page : Page := {}
  let mut last := 0
  for l in lines do
    let spot := spotOf l.number
    modify fun b => { b with spot }
    page ← readLine r page spot l.text
    last := l.number + (l.text.filter (· == '\n')).length
  match page.definition with
  | some d => refuseAt d.spot "missing 'endef', unterminated 'define'"
  | none => pure ()
  if !page.branches.isEmpty then refuseAt (spotOf (last + 1)) "missing 'endif'"
  closeRule page.rule
  modify fun b => { b with spot := before }

/-- Read a file, which is looked for in other directories if one reads it from another. One that is not
there is noted. -/
def readMakefile (r : Readers) (isIncluded mayMiss : Bool) (name : String) : Making Unit := do
  let b ← get
  let directories := if isIncluded && !name.startsWith "/" then b.includeDirectories else []
  let mut found := (name, ← contentOf name)
  for dir in directories do
    match found.2 with
    | .notOpened _ =>
      let path := dir ++ "/" ++ name
      match ← contentOf path with
      | .notOpened _ => pure ()
      | content => found := (path, content)
    | _ => pure ()
  let file := fileName found.1.toList
  modify fun b => b.withTarget file
  match found.2 with
  | .notOpened e => do
    let reason := name ++ ": " ++ e.message
    if !isIncluded then tellAt none reason
    let lead := match b.spot with | some s => s.told | none => b.name ++ ": "
    let told := if isIncluded && !mayMiss then some (lead ++ reason ++ "\n") else none
    modify fun b =>
      { b with makefiles := { name := file, told, isMissing := true, isIncluded, mayMiss } :: b.makefiles }
  | .notRead e => giveUpBecause (name ++ ": " ++ e.message)
  | .text text => do
    modify fun b => { b with makefiles := { name := file, isIncluded, mayMiss } :: b.makefiles }
    let listed := ((← get).vars.lookup "MAKEFILE_LIST").getD
      { recursive := false, spot := some ⟨name, 1⟩ }
    let value := if listed.value = "" then found.1 else listed.value ++ " " ++ found.1
    modify fun b => b.withVariable "MAKEFILE_LIST" { listed with value }
    let lines := linesOfFile text
    readLines r (some name) (fullLines true (lines.length + 1) 1 lines)

/-- Read a text as a part of a makefile. -/
def readText (r : Readers) (text : String) : Making Unit := do
  let lines := linesOfText text
  readLines r none (fullLines false (lines.length + 1) 1 lines)

/-- Ways to read that may be used so many times within one another. -/
def readersFrom : Nat → Readers
  | 0 =>
    let tooDeep : Making Unit := giveUpBecause "virtual memory exhausted"
    { evaluate := fun _ => tooDeep, takeIn := fun _ _ => tooDeep }
  | fuel + 1 =>
    let r := readersFrom fuel
    { evaluate := readText r, takeIn := readMakefile r true }

/-- The ways to read. -/
def readers : Readers :=
  readersFrom 200

/-- Expand a text. -/
def expand (text : String) : Making String :=
  readers.expand text.toList

/-- Expand a text with the variables of a target, at a place in a file. -/
def expandFor (k : Key) (spot : Option Spot) (text : String) : Making String :=
  within (fun b => { b with scopes := [], target := some k, spot, valueSpot := none }) (expand text)

end Ensemble.Utility.Making
