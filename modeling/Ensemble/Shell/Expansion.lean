import Ensemble.Shell.Arithmetic
import Ensemble.Shell.Extended.Brace
import Ensemble.Shell.Extended.Reach
import Ensemble.Shell.Field
import Ensemble.Shell.Pattern
import Ensemble.Shell.State

/-!
# Ensemble.Shell.Expansion

**Expansion** turns the words of a command into the texts that it gets. A word is first spelled out as
cells; these are cut into fields, and a field that is a pattern is completed to the paths it matches
(`paths`). Where a single text is wanted, nothing is cut or completed.
-/

namespace Ensemble.Shell

namespace Expansion

/-- What a word is expanded for. -/
structure Use where
  /-- Is it cut into fields? -/
  full : Bool := false
  /-- Does it stand between quotes? -/
  quoted : Bool := false
  /-- Can characters that stand in the word be separators? -/
  inWord : Bool := false
  /-- Can the word begin with a home directory? -/
  home : Bool := false
  /-- Can a home directory stand behind its first `=` and behind each `:`? -/
  homes : Bool := false

/-! ### Homes -/

/-- The home directories of users that every machine has. -/
def homeTable : List (String × String) :=
  [("root", "/root"), ("daemon", "/usr/sbin"), ("bin", "/bin"), ("sys", "/dev"), ("sync", "/bin"),
    ("games", "/usr/games"), ("man", "/var/cache/man"), ("lp", "/var/spool/lpd"),
    ("mail", "/var/mail"), ("news", "/var/spool/news"), ("uucp", "/var/spool/uucp"),
    ("proxy", "/bin"), ("www-data", "/var/www"), ("backup", "/var/backups"),
    ("list", "/var/list"), ("irc", "/run/ircd"), ("nobody", "/nonexistent")]

/-- The home directory of a user, or of the one that runs the shell. -/
def homeOf (s : Shell) (name : String) : Option String :=
  if name = "" then s.value? "HOME"
  else if s.dialect = .extended && name = "+" then s.value? "PWD"
  else if s.dialect = .extended && name = "-" then s.value? "OLDPWD"
  else homeTable.lookup name

/-- Spell out characters that are not quoted. `alone` tells that nothing follows them in the word,
`start` that a home directory can stand here, and `equals` that there has been a `=`. -/
def plainCells (home : String → Option String) (homes splits alone : Bool) :
    Nat → Bool → Bool → List Char → List Cell
  | 0, _, _, _ => []
  | _, _, _, [] => []
  | fuel + 1, start, equals, c :: cs =>
    let go := plainCells home homes splits alone fuel
    let asIs : List Cell :=
      .char c false splits ::
        go (homes && (c == ':' || (c == '=' && !equals))) (equals || c == '=') cs
    if start && c == '~' then
      let name := cs.takeWhile fun c => c != '/' && !(homes && c == ':')
      let rest := cs.drop name.length
      if rest.isEmpty && !alone then asIs
      else
        match home (.ofList name) with
        | some h => h.toList.map (.char · true false) ++ go false equals rest
        | none => asIs
    else asIs

/-! ### Parameters -/

/-- The number that digits name: beyond the greatest word of 64 bits they name that, and of it the 32
lowest bits count, of which the first is a sign; below zero there is none. -/
def placeNumber? (digits : Nat) : Option Nat :=
  let n := min digits (Nat.pow 2 63 - 1) % Nat.pow 2 32
  if n < Nat.pow 2 31 then some n else none

/-- The value of a parameter that has one value. -/
def single (s : Shell) (name : String) : Option String :=
  match name with
  | "#" => some (toString s.positional.length)
  | "?" => some (toString s.status)
  | "$" => some (toString s.root)
  | "!" => s.lastJob.map toString
  | "-" =>
    match s.dialect with
    | .plain => some s.modes.letters
    | .extended => some (s.modes.extendedLetters ++ if s.isArgument then "c" else if s.modes.fromInput then "s" else "")
  | _ =>
    match name.toNat? with
    | some digits =>
      match placeNumber? digits with
      | some 0 => some s.name
      | some n => s.positional[n - 1]?
      | none => none
    | none => s.value? name

def isList (name : String) : Bool :=
  name == "@" || name == "*"

/-- The separators of fields. -/
def separators (s : Shell) : List Char :=
  ((s.value? "IFS").getD defaultSeparators).toList

/-- The cells of a value. -/
def ofValue (quoted : Bool) (value : String) : List Cell :=
  if quoted then value.toList.map (.char · true false)
  else .seam :: value.toList.map (.char · false true)

/-- What stands between positional parameters that become one text. -/
def joint (s : Shell) : List Char :=
  (separators s).take 1

/-- Many values, spelled out: each by itself, or joined. -/
def listed (s : Shell) (use : Use) (quoted joined : Bool) (values : List String) : List Cell :=
  let between : List Cell :=
    if !joined && quoted && use.full then [.cut]
    else if use.full && !quoted then
      if (s.value? "IFS").isSome then [.gap] else [.char ' ' false true]
    else (joint s).map (.char · quoted (!quoted))
  let spelled := values.map fun v => v.toList.map (.char · quoted (!quoted))
  (if quoted then [] else [.seam]) ++ List.intercalate between spelled

/-- The positional parameters, spelled out. -/
def positionals (s : Shell) (use : Use) (quoted : Bool) (name : String) : List Cell :=
  listed s use quoted (name != "@") s.positional

/-- The value of a parameter, spelled out; none if it is not set. -/
def parameter? (s : Shell) (use : Use) (quoted : Bool) (name : String) : Option (List Cell) :=
  if isList name then some (positionals s use quoted name)
  else (single s name).map (ofValue quoted)

/-- A value that must be there if the shell is strict. -/
def strictly (name : String) (found : Option (List Cell)) : Act (List Cell) := do
  match found with
  | some cells => return cells
  | none => do
    let s ← get
    if s.modes.strictParameters then
      match s.dialect with
      | .plain => giveUp (name ++ ": parameter not set")
      | .extended =>
        let isNamed :=
          match name.toList with
          | '!' :: _ :: _ => true
          | c :: _ => isNameStart c
          | [] => false
        leaveWith ((if isNamed then name else "$" ++ name) ++ ": unbound variable")
    return []

/-- How many characters there are. -/
def sizeOf (cells : List Cell) : Nat :=
  (Field.text cells).length

/-- What was reached through a name, spelled out. -/
def spelled (use : Use) (quoted : Bool) (label : String) (r : Extended.Reached) : Act (List Cell) := do
  match r with
  | .one v => strictly label (v.map (ofValue quoted))
  | .many vs joined =>
    if vs.isEmpty && quoted && !joined then return [.void]
    return listed (← get) use quoted joined vs

/-- What stands in place of a match: an ampersand that is not quoted stands for the match. -/
def replacement (cells : List Cell) (found : List Char) : List Char :=
  cells.flatMap fun
    | .char '&' false _ => found
    | .char c _ _ => [c]
    | .gap | .cut => [' ']
    | _ => []

/-- Are only the words as they were written left? -/
def isEnd (ps : List Piece) : Bool :=
  ps.all fun
    | .written _ => true
    | _ => false

/-! ### Expressions -/

/-- The value of an arithmetic expression. -/
def evaluate (text : String) : Act String := do
  if (← get).dialect = .extended then return toString (← Extended.evaluate "" text).toInt
  let names : Arithmetic.Names Act :=
    { get := fun name => do
        let value := ((← get).value? name).getD ""
        match Numeral.whole? 0 value with
        | some n => return Int64.ofInt n
        | none => giveUp ("Illegal number: " ++ value)
      put := fun name n => assign name (toString n.toInt)
      fail := fun f => do
        if f = .overflow then dieOf 8
        giveUp ("arithmetic expression: " ++ f.message ++ ": \"" ++ text ++ "\"") }
  return toString (← Arithmetic.eval names text).toInt

/-! ### Words -/

/-- What is done with the scripts in a word. -/
structure Scripts where
  /-- Run a script and give what it writes. -/
  output : Command → Act String
  /-- Start a script, whose output is read or whose input is written, and give the path to do so. -/
  channel : Bool → Command → Act String
  /-- Expand a text as a prompt. -/
  prompt : String → Act String

/-- Without the line feeds at the end, and without NULs. -/
def chomp (s : String) : String :=
  .ofList (((s.toList.filter (· != '\x00')).reverse.dropWhile (· == '\n')).reverse)

mutual

/-- Spell out a piece that is not plain. -/
def piece (run : Scripts) (use : Use) (quoted : Bool) : Piece → Act (List Cell)
  | .plain s => return s.map (.char · false false)
  | .quoted s => return s.map (.char · true false)
  | .mark => return [.mark]
  | .parameter name => do
    if (← get).dialect = .extended then Extended.refresh name
    let s ← get
    if s.dialect = .extended && (s.target name).toList.contains '[' then
      spelled use quoted name (← Extended.reached single name none none)
    else strictly name (parameter? s use quoted name)
  | .written _ | .place _ | .elements _ => return []
  | .channel reads script => return (← run.channel reads script).toList.map (.char · true false)
  | .reached name how place first second => do
    let key ←
      if place.isEmpty then pure none
      else some <$> do return String.ofList (Field.text (← word run {} false false false place))
    let label := match key with | some key => name ++ "[" ++ key ++ "]" | none => name
    let label := if how.indirect then "!" ++ label else label
    let find : Act Extended.Reached :=
      if how.indirect then Extended.reachedThrough single name how.all key
      else Extended.reached single name how.all key
    let inside : Use := { use with quoted, inWord := true, home := true }
    let s ← get
    match how.action with
    | .value => spelled use quoted label (← find)
    | .size =>
      match ← find with
      | .many vs _ => return ofValue quoted (toString vs.length)
      | .one v => strictly label (v.map fun v => ofValue quoted (toString v.length))
    | .places =>
      spelled use quoted label (.many (Extended.placesOf s name) (how.all == some true))
    | .names => spelled use quoted label (.many (Extended.namesLike s name) (how.all == some true))
    | .given how emptyToo => do
      let found ← find
      match how with
      | .orElse =>
        if found.isThere emptyToo then spelled use quoted label found
        else word run inside true false false first
      | .ifThere =>
        if found.isThere emptyToo then word run inside true false false first else return []
      | .orAssign =>
        if found.isThere emptyToo then spelled use quoted label found
        else
          let text := String.ofList (Field.text (← word run { home := true } true false false first))
          if !isName name.toList then drop ("$" ++ name ++ ": cannot assign in this way")
          Extended.assignTo name key false text
          spelled use quoted label (← find)
      | .orComplain =>
        if found.isThere emptyToo then spelled use quoted label found
        else
          let told := String.ofList (Field.text (← word run { home := true } true false false first))
          let told :=
            if !isEnd first then told
            else if emptyToo then "parameter null or not set"
            else "parameter not set"
          leaveWith (name ++ ": " ++ told)
      | .without cut => do
        let pattern := Field.pattern (← word run { home := true } true false false first)
        let g := Extended.Glob.ofChars (s.toggles.contains "extglob") false pattern
        spelled use quoted label (← found.map fun v => return .ofList (g.cut cut v.toList))
      | _ => spelled use quoted label found
    | .slice hasLength => do
      let found ← find
      let text := String.ofList (Field.text (← word run {} false false false first))
      let lengthText := String.ofList (Field.text (← word run {} false false false second))
      let offset := (← Extended.evaluate "" text).toInt
      let length ←
        if hasLength then some <$> do return (← Extended.evaluate "" lengthText).toInt else pure none
      match found with
      | .one none => spelled use quoted label found
      | .one (some v) =>
        match Extended.slice v.toList offset length with
        | some cs => return ofValue quoted (.ofList cs)
        | none => drop (lengthText ++ ": substring expression < 0")
      | .many vs joined =>
        match Extended.sliceMany s name vs offset length with
        | some vs => spelled use quoted label (.many vs joined)
        | none => drop (lengthText ++ ": substring expression < 0")
    | .replace all anchor => do
      let found ← find
      let pattern := Field.pattern (← word run { home := true } true false false first)
      let cells ← word run { home := true } true false false second
      let g := Extended.Glob.ofChars (s.toggles.contains "extglob") (s.toggles.contains "nocasematch") pattern
      if pattern.isEmpty && anchor = .anywhere then spelled use quoted label found
      else
        spelled use quoted label
          (← found.map fun v => return .ofList (g.replace all anchor (replacement cells) v.toList))
    | .recase great all => do
      let found ← find
      let pattern := Field.pattern (← word run { home := true } true false false first)
      spelled use quoted label
        (← found.map fun v => return Extended.recased great all pattern v)
    | .reshape 'P' => do spelled use quoted label (← (← find).map run.prompt)
    | .reshape form => do spelled use quoted label (← (← find).reshape name form)
    | .senseless written => drop (written ++ ": bad substitution")
  | .treated name how emptyToo w => do
    let s ← get
    let found := parameter? s use quoted name
    let isThere := found.any fun cells => !emptyToo || sizeOf cells != 0
    let inside : Use := { use with quoted, inWord := true, home := true }
    match how with
    | .orElse => if isThere then return found.getD [] else word run inside true false false w
    | .ifThere => if isThere then word run inside true false false w else return []
    | .orAssign =>
      if isThere then return found.getD []
      let cells ← word run { home := true } true false false w
      if isList name || (name.toList.head?).any (!isNameStart ·) then
        giveUp (name ++ ": bad variable name")
      assign name (.ofList (Field.text cells))
      let s ← get
      return (parameter? s use quoted name).getD []
    | .orComplain =>
      if isThere then return found.getD []
      let told := String.ofList (Field.text (← word run { home := true } true false false w))
      let told :=
        if !w.isEmpty then told
        else if emptyToo then "parameter not set or null"
        else "parameter not set"
      giveUp (name ++ ": " ++ told)
    | .without cut => do
      let cells ← strictly name found
      let pattern := Field.pattern (← word run { home := true } true false false w)
      let value := String.ofList (Pattern.cut cut pattern (Field.text cells))
      return ofValue quoted value
    | .size => do
      let cells ← strictly name found
      return ofValue quoted (toString (sizeOf cells))
    | .senseless => giveUp "Bad substitution"
  | .output script => do
    let text ← run.output script
    return ofValue quoted (chomp text)
  | .sum w => do
    let text := String.ofList (Field.text (← word run {} false false false w))
    return ofValue quoted (← evaluate text)

/-- Spell out a word. `start` tells that a home directory can stand here, `equals` that there has been
a `=`, and `inQuotes` that a quotation mark has been passed. All positional parameters between
quotation marks are nothing if there are none. -/
def word (run : Scripts) (use : Use) (start equals inQuotes : Bool) :
    List Piece → Act (List Cell)
  | [] => return []
  | .plain s :: ps => do
    let state ← get
    let cells := plainCells (homeOf state) use.homes (use.inWord && !use.quoted) (isEnd ps)
      (s.length + 1) (start && use.home) equals s
    return cells ++ (← word run use false (equals || s.contains '=') inQuotes ps)
  | .mark :: .parameter name :: .mark :: ps => do
    let rest := word run use false equals inQuotes ps
    if name == "@" && !inQuotes && (← get).positional.isEmpty then rest
    else
      let cells ← piece run use (use.quoted || !inQuotes) (.parameter name)
      return [.mark] ++ cells ++ [.mark] ++ (← rest)
  | .mark :: ps => do
    let rest ← word run use false equals (!inQuotes) ps
    return .mark :: rest
  | p :: ps => do
    let cells ← piece run use (use.quoted || inQuotes) p
    return cells ++ (← word run use false equals inQuotes ps)

end

/-- Spell out a whole word. -/
def spell (run : Scripts) (use : Use) (w : Word) : Act (List Cell) := do
  word run use true false false w

/-- The single text of a word. -/
def text (run : Scripts) (use : Use) (w : Word) : Act String :=
  return .ofList (Field.text (← spell run use w))

/-- The text of an assignment. -/
def assignmentText (run : Scripts) (w : Word) : Act String :=
  text run { homes := true } w

/-- The pattern of a word. -/
def pattern (run : Scripts) (w : Word) : Act (List Char) :=
  return Field.pattern (← spell run { home := true } w)

/-! ### Paths -/

/-- How patterns are completed to paths. -/
structure Completion where
  isProper : List Char → Bool
  isMatch : List Char → List Char → Bool
  /-- The names that every directory has, if they count. -/
  ownNames : List String := []
  /-- Are names that begin with a point matched, too? -/
  hidden : Bool := false
  /-- Do two stars stand for all that lies below? -/
  deep : Bool := false

namespace Completion

def plain : Completion where
  isProper p := Pattern.isProper (p.length + 1) p
  isMatch p cs := Pattern.isMatch p cs
  ownNames := [".", ".."]

/-- Does anything in a pattern stand for more than itself? -/
def isProperExtended (groups : Bool) : List Char → Bool
  | [] => false
  | '\x5c' :: _ :: cs => isProperExtended groups cs
  | c :: cs =>
    c == '*' || c == '?' || (c == '[' && cs.contains ']') ||
      (groups && (Extended.Part.count? c).isSome && cs.head? == some '(') || isProperExtended groups cs

def ofShell (s : Shell) : Completion :=
  match s.dialect with
  | .plain => plain
  | .extended =>
    let groups := s.toggles.contains "extglob"
    { isProper := isProperExtended groups
      isMatch := fun p cs =>
        (Extended.Glob.ofChars groups (s.toggles.contains "nocaseglob") p).isMatch cs
      hidden := s.toggles.contains "dotglob"
      deep := s.toggles.contains "globstar" }

end Completion

/-- The directories below one, with their paths from there on, each behind those above it. -/
def directoriesBelow : Nat → String → Act (List String)
  | 0, _ => return []
  | fuel + 1, path => do
    match ← ask (.list (if path = "" then "." else path)) with
    | .error _ => return []
    | .ok names => do
      let found ← (names.mergeSort fun a b => decide (a ≤ b)).mapM fun name => do
        if name.toList.head? == some '.' then return []
        match ← ask (.status (path ++ name) false) with
        | .ok s =>
          if s.kind = .directory then
            return (path ++ name ++ "/") :: (← directoriesBelow fuel (path ++ name ++ "/"))
          else return []
        | .error _ => return []
      return found.flatten

/-- The paths that the rest of a pattern's parts match, given what is matched so far. -/
def pathsFrom (c : Completion) : List (List Char) → String → Act (List String)
  | [], _ => return []
  | part :: parts, found => do
    let last := parts.isEmpty
    if c.deep && part == ['*', '*'] then
      let below ← directoriesBelow 1000 found
      let places := found :: below
      if last then
        let inside ← places.mapM fun place => do
          match ← ask (.list (if place = "" then "." else place)) with
          | .error _ => return []
          | .ok names =>
            return (names.filter fun name => c.hidden || name.toList.head? != some '.').map (place ++ ·)
        return inside.flatten
      else
        let paths ← places.mapM fun place => pathsFrom c parts place
        return paths.flatten
    else if c.isProper part then
      match ← ask (.list (if found = "" then "." else found)) with
      | .error _ => return []
      | .ok names =>
        let hidden := c.hidden || part.take 1 == ['.'] || part.take 2 == ['\x5c', '.']
        let names := c.ownNames ++ names
        let names := names.filter fun name =>
          (hidden || name.toList.head? != some '.') && c.isMatch part name.toList
        if last then return names.map (found ++ ·)
        else
          let found ← names.mapM fun name => pathsFrom c parts (found ++ name ++ "/")
          return found.flatten
    else
      let next := found ++ String.ofList (Pattern.plainText part)
      if last then
        match ← ask (.status next false) with
        | .ok _ => return [next]
        | .error _ => return []
      else pathsFrom c parts (next ++ "/")

/-- The texts that a field stands for: the paths it matches, or itself. -/
def paths (field : List Cell) : Act (List String) := do
  let pattern := Field.pattern field
  let s ← get
  let c := Completion.ofShell s
  if !s.modes.literalPaths && c.isProper pattern then
    match ← pathsFrom c (Pattern.pathParts pattern) "" with
    | [] =>
      let text := String.ofList (Field.text field)
      if s.toggles.contains "failglob" then drop ("no match: " ++ text)
      return if s.toggles.contains "nullglob" then [] else [text]
    | found => return found.mergeSort fun a b => decide (a ≤ b)
  else return [.ofList (Field.text field)]

/-- The texts that a word stands for. -/
def fields (run : Scripts) (w : Word) : Act (List String) := do
  let homes := w.isAssignment && (← get).dialect = .extended
  let cells ← spell run { full := true, home := true, homes } w
  let found ← (Field.ofCells (separators (← get)) cells).mapM paths
  return found.flatten

/-- The words that words stand for before anything in them is expanded. -/
def unbraced (ws : List Word) : Act (List Word) := do
  let s ← get
  return if s.dialect = .extended && s.modes.braces then ws.flatMap Extended.Brace.words else ws

/-- The texts that words stand for. -/
def texts (run : Scripts) (ws : List Word) : Act (List String) := do
  return (← (← unbraced ws).mapM (fields run)).flatten

end Expansion

end Ensemble.Shell
