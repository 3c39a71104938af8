import Ensemble.Shell.Pattern
import Ensemble.Text.Calendar
import Ensemble.Utility.Mode
import Ensemble.Utility.Names
import Ensemble.Utility.Ordering

/-!
# Ensemble.Utility.Listing

**Listing** what is in directories: `ls`. A listing is settled by its order, by which entries are in it,
and by its layout: one name on a line, with or without all that is known of it, or names side by side.
-/

namespace Ensemble.Utility

/-- An entry of a listing. -/
structure Entry where
  name : String
  status : Option Status
  /-- What a link leads to. -/
  target : Option String := none
  targetStatus : Option Status := none

/-- How entries are laid out. -/
inductive ListForm
  | lines
  | long
  /-- Side by side, in columns from above to below, or in rows. -/
  | columns
  | rows
  /-- Side by side with commas between them. -/
  | commas
deriving DecidableEq, Repr

/-- When links are followed. -/
inductive Following
  | never
  | operands
  /-- Operands that lead to directories. -/
  | directories
  | always
deriving DecidableEq, Repr

/-- How directories are listed. -/
structure Listing where
  layout : ListForm := .lines
  /-- Are entries shown that begin with a point, and also the directory and the one above? -/
  hidden : Bool := false
  both : Bool := false
  /-- Are directories entries themselves? -/
  asEntries : Bool := false
  whole : Bool := false
  following : Following := .directories
  order : String := "name"
  backwards : Bool := false
  directoriesFirst : Bool := false
  /-- Which kinds are marked behind the name: none, directories, all but programs, or all. -/
  marks : Nat := 0
  sizes : Bool := false
  numbers : Bool := false
  owner : Bool := true
  group : Bool := true
  byNumber : Bool := false
  human : Bool := false
  quoting : String := "literal"
  backups : Bool := true
  ignored : List String := []
  dates : String := ""
  width : Nat := 80
  now : Int := 0

namespace Listing

/-! ### Text of an entry -/

/-- The mark behind a name. -/
def mark (l : Listing) (s : Option Status) : String :=
  match s with
  | none => ""
  | some s =>
    match s.kind with
    | .directory => if 1 ≤ l.marks then "/" else ""
    | .link => if 2 ≤ l.marks then "@" else ""
    | .queue => if 2 ≤ l.marks then "|" else ""
    | .file => if 3 ≤ l.marks && (s.mode &&& 0o111) != 0 then "*" else ""
    | .device => ""

/-- A name as it is shown. -/
def shown (l : Listing) (name : String) : String :=
  match l.quoting with
  | "c" =>
    let text (c : Char) : String :=
      if c == '"' || c == '\x5c' then "\\" ++ c.toString
      else if isPrintable c then c.toString else escaped c
    "\"" ++ String.join (name.toList.map text) ++ "\""
  | "escape" =>
    let text (c : Char) : String :=
      if c == ' ' || c == '\x5c' then "\\" ++ c.toString
      else if isPrintable c then c.toString else escaped c
    String.join (name.toList.map text)
  | "shell" => nameText name
  | "shell-always" => shellQuoted name
  | "masked" => .ofList (name.toList.map fun c => if isPrintable c then c else '?')
  | _ => name

/-- The blocks of an entry, of 1024 octets each. -/
def blocks (s : Option Status) : Nat :=
  match s with
  | some s =>
    match s.kind with
    | .file => (s.size + 4095) / 4096 * 4
    | .directory => 4
    | _ => 0
  | none => 0

/-- An amount with a unit, rounded up. -/
def humanText : Nat → Nat → List String → String
  | n, _, [] => toString n
  | n, scale, unit :: units =>
    if n < scale * 1024 || units.isEmpty then
      if scale = 1 then toString n
      else
        let tenths := (n * 10 + scale - 1) / scale
        if tenths < 100 then toString (tenths / 10) ++ "." ++ toString (tenths % 10) ++ unit
        else
          let n := (n + scale - 1) / scale
          if n = 1024 then "1.0" ++ units.headD "" else toString n ++ unit
    else humanText n (scale * 1024) units

def sizeText (l : Listing) (n : Nat) : String :=
  if l.human then humanText n 1 ["", "K", "M", "G", "T", "P", "E"] else toString n

/-- Blocks as they are told. -/
def blockText (l : Listing) (n : Nat) : String :=
  if l.human then l.sizeText (n * 1024) else toString n

/-- The time of an entry: its hour if it is of the last half year, or else its year. -/
def timeText (l : Listing) (time : Int) : String :=
  let isRecent := time ≤ l.now && l.now - time < 15778476 * 1000000
  let told :=
    match l.dates with
    | "" => if isRecent then "%b %e %H:%M" else "%b %e  %Y"
    | "long-iso" => "%Y-%m-%d %H:%M"
    | "iso" => if isRecent then "%m-%d %H:%M" else "%Y-%m-%d "
    | "full-iso" => "%Y-%m-%d %H:%M:%S.%N %z"
    | told => told
  Text.Calendar.formatted (time / 1000000) (time % 1000000).toNat told

def leftPad (width : Nat) (s : String) : String :=
  .ofList (List.replicate (width - s.length) ' ') ++ s

def rightPad (width : Nat) (s : String) : String :=
  s ++ .ofList (List.replicate (width - s.length) ' ')

def greatest (xs : List Nat) : Nat :=
  xs.foldl max 0

/-- The parts in front of a name that stand in columns, and whether each stands at the right. -/
def columnsOf (l : Listing) (e : Entry) : List (String × Bool) :=
  let told (f : Status → String) : String := (e.status.map f).getD "?"
  let numbers := if l.numbers then [(told (toString ·.number), true)] else []
  let sizes := if l.sizes then [(l.blockText (blocks e.status), true)] else []
  if l.layout != .long then numbers ++ sizes
  else
    let who := if l.byNumber then "0" else "root"
    let mode := (e.status.map fun s => (kindLetter s.kind).toString ++ modeLetters s.mode).getD
      "??????????"
    numbers ++ sizes ++ [(mode, false), (told (toString ·.links), true)] ++
      (if l.owner then [(who, l.byNumber)] else []) ++ (if l.group then [(who, l.byNumber)] else []) ++
      [(told fun s => l.sizeText s.size, true), (told fun s => l.timeText s.time, false)]

/-- The lines of entries: what stands in columns is as wide as the widest of these and others. -/
def textOf (l : Listing) (entries others : List Entry) : List String :=
  let rows := entries.map l.columnsOf
  let all := rows ++ others.map l.columnsOf
  let count := greatest (all.map List.length)
  let widths := (List.range count).map fun n =>
    greatest (all.map fun row => ((row[n]?).map (·.1.length)).getD 0)
  entries.zip rows |>.map fun (e, row) =>
    let front := (row.zip widths).map fun ((text, atRight), width) =>
      (if atRight then leftPad width text else rightPad width text) ++ " "
    let behind :=
      match l.layout, e.target with
      | .long, some target => " -> " ++ l.shown target ++ l.mark e.targetStatus
      | _, _ => l.mark e.status
    String.join front ++ l.shown e.name ++ behind

/-! ### Layouts -/

/-- The widths of so many columns, if names fit into lines. -/
def widthsFor (l : Listing) (lengths : List Nat) (cols : Nat) : Option (List Nat) :=
  let count := lengths.length
  let rows := (count + cols - 1) / cols
  let columnOf (n : Nat) : Nat := if l.layout == .columns then n / rows else n % cols
  let widths := (List.range cols).map fun col =>
    greatest (3 :: ((lengths.zipIdx.filter fun (_, n) => columnOf n == col).map fun (length, _) =>
      if col + 1 = cols then length else length + 2))
  if widths.foldl (· + ·) 0 < l.width then some widths else none

/-- Go from one place of a line to another, by tabs as far as they reach. -/
def gap : Nat → Nat → Nat → String
  | 0, _, _ => ""
  | fuel + 1, start, goal =>
    if goal ≤ start then ""
    else if (start + 1) / 8 < goal / 8 then "\t" ++ gap fuel (start / 8 * 8 + 8) goal
    else " " ++ gap fuel (start + 1) goal

/-- One line of texts in columns. -/
def lineOf : Nat → List (String × Nat) → String
  | _, [] => ""
  | _, [(text, _)] => text
  | place, (text, width) :: rest =>
    text ++ gap (width + 2) (place + text.length) (place + width) ++ lineOf (place + width) rest

/-- Texts side by side in columns. -/
def inColumns (l : Listing) (texts : List String) : List String :=
  let lengths := texts.map String.length
  let most := max 1 (min texts.length (l.width / 3))
  let candidates := (List.range most).reverse.map (· + 1)
  let (cols, widths) :=
    match candidates.findSome? fun cols => (l.widthsFor lengths cols).map (cols, ·) with
    | some found => found
    | none => (1, [l.width])
  let rows := (texts.length + cols - 1) / cols
  (List.range rows).map fun row =>
    let places := (List.range cols).filterMap fun col =>
      (texts[if l.layout == .columns then row + col * rows else row * cols + col]?).map fun text =>
        (text, widths.getD col 0)
    lineOf 0 places

/-- Texts with commas between them, in lines. -/
def withCommas (l : Listing) : Nat → String → List String → List String
  | _, line, [] => if line = "" then [] else [line]
  | place, line, text :: texts =>
    if line = "" then withCommas l text.length text texts
    else if place + 2 + text.length < l.width then
      withCommas l (place + 2 + text.length) (line ++ ", " ++ text) texts
    else (line ++ ",") :: withCommas l text.length text texts

/-- The lines in which entries are shown. -/
def laidOut (l : Listing) (entries others : List Entry) : List String :=
  let texts := l.textOf entries others
  match l.layout with
  | .lines | .long => texts
  | .columns | .rows => if texts.isEmpty then [] else l.inColumns texts
  | .commas => l.withCommas 0 "" texts

/-! ### Order -/

/-- The end of a name, from its last point on. -/
def extension (name : String) : List Char :=
  let behind := name.toList.reverse.takeWhile (· != '.')
  if behind.length = name.length then [] else '.' :: behind.reverse

/-- The order of two entries. -/
def compareEntries (l : Listing) (a b : Entry) : Ordering :=
  let byName := compareTexts a.name.toList b.name.toList
  let of (f : Status → Int) (e : Entry) : Int := (e.status.map f).getD 0
  match l.order with
  | "time" => (compare (of (·.time) b) (of (·.time) a)).then byName
  | "size" => (compare (of (·.size) b) (of (·.size) a)).then byName
  | "extension" => (compareTexts (extension a.name) (extension b.name)).then byName
  | "version" => (compareVersions a.name.toList b.name.toList).then byName
  | "width" => (compare a.name.length b.name.length).then byName
  | _ => byName

/-- Entries in order. -/
def ordered (l : Listing) (entries : List Entry) : List Entry :=
  if l.order = "none" then entries
  else
    let sorted := entries.mergeSort fun a b =>
      let o := l.compareEntries a b
      (if l.backwards then o.swap else o) != .gt
    if l.directoriesFirst then
      let isDirectory (e : Entry) : Bool :=
        ((e.targetStatus.or e.status).map (·.kind)) == some .directory
      let (dirs, others) := sorted.partition isDirectory
      dirs ++ others
    else sorted

/-! ### Entries -/

/-- What is known of the place that a name stands for. -/
def entryAt (l : Listing) (path name : String) (isOperand : Bool) :
    Tool (Except MachineFault Entry) := do
  let followed ← ask (.status path true)
  let direct ← ask (.status path false)
  let chosen : Except MachineFault Status :=
    match l.following, isOperand with
    | .always, _ | .operands, true => followed
    | .directories, true =>
      match followed with
      | .ok s => if s.kind == .directory then .ok s else direct
      | .error .notFound => direct
      | .error e => .error e
    | _, _ => direct
  match chosen with
  | .error e =>
    if isOperand then return .error e
    else do
      complainOf ("cannot access " ++ shellQuoted path) e
      return .ok ⟨name, direct.toOption.filter (·.kind == .link), none, none⟩
  | .ok s => do
    if s.kind == .link then
      let target := (← ask (.readLink path)).toOption
      return .ok ⟨name, some s, target, followed.toOption⟩
    return .ok ⟨name, some s, none, none⟩

/-- Is a name left out? -/
def isLeftOut (l : Listing) (name : String) : Bool :=
  (name.toList.head? == some '.' && !l.hidden) ||
    (!l.backups && name.toList.getLast? == some '~') ||
    l.ignored.any fun p => Shell.Pattern.isMatch p.toList name.toList

/-- Show entries, in columns in which others have room. -/
def sayEntries (l : Listing) (entries others : List Entry) : Tool Unit := do
  for line in l.laidOut entries others do
    sayLine line

/-- Show what is in a directory, and in those below if that is wanted. The answer is the worst status
and whether the next directory is the first. -/
def directory (l : Listing) (headed : Bool) : Nat → Bool → String → Tool (Nat × Bool)
  | 0, isFirst, _ => return (1, isFirst)
  | fuel + 1, isFirst, path => do
    ask .tick
    match ← ask (.list path) with
    | .error e => do
      complainOf ("cannot open directory " ++ shellQuoted path) e
      return (1, isFirst)
    | .ok names => do
      let names := (if l.both then [".", ".."] else []) ++ names.filter fun n => !l.isLeftOut n
      let mut found := []
      for name in names do
        match ← l.entryAt (below path name) name false with
        | .ok e => found := e :: found
        | .error _ => pure ()
      let entries := l.ordered found.reverse
      if headed || l.whole then
        say ((if isFirst then "" else "\n") ++ path ++ ":\n")
      if l.layout == .long || l.sizes then
        sayLine ("total " ++ l.blockText ((entries.map fun e => blocks e.status).foldl (· + ·) 0))
      l.sayEntries entries []
      let mut status := 0
      if l.whole then
        for e in entries do
          if e.status.any (·.kind == .directory) && e.name != "." && e.name != ".." then
            let (s, _) ← directory l headed fuel false (below path e.name)
            status := max status s
      return (status, false)

end Listing

/-- The listing that options ask for. -/
def listingOf (chosen : Chosen) (now : Int) (columns : Option String) : Listing :=
  let layout : ListForm :=
    match chosen.last? ["l", "g", "n", "o", "1", "C", "x", "m", "full-time", "format"] with
    | some "C" => .columns
    | some "x" => .rows
    | some "m" => .commas
    | some "1" =>
      if chosen.has "l" || chosen.has "g" || chosen.has "n" || chosen.has "o" then .long else .lines
    | some "format" =>
      match chosen.value? "format" with
      | some "long" | some "verbose" => .long
      | some "commas" => .commas
      | some "across" | some "horizontal" => .rows
      | some "vertical" => .columns
      | _ => .lines
    | some _ => .long
    | none => .lines
  let order :=
    match chosen.last? ["t", "S", "X", "v", "U", "f", "sort"] with
    | some "t" => "time"
    | some "S" => "size"
    | some "X" => "extension"
    | some "v" => "version"
    | some "U" | some "f" => "none"
    | some "sort" => (chosen.value? "sort").getD "name"
    | _ => "name"
  let marks :=
    match chosen.last? ["F", "p", "file-type", "indicator-style"] with
    | some "F" =>
      match chosen.value? "F" with
      | some "never" | some "auto" => 0
      | _ => 3
    | some "p" => 1
    | some "file-type" => 2
    | some _ =>
      match chosen.value? "indicator-style" with
      | some "slash" => 1
      | some "file-type" => 2
      | some "classify" => 3
      | _ => 0
    | none => 0
  let asEntries := chosen.has "d"
  let following :=
    match chosen.last? ["H", "L", "dereference-dirs"] with
    | some "H" => Following.operands
    | some "L" => .always
    | some _ => .directories
    | none => if asEntries || layout == .long || marks = 3 then .never else .directories
  let hides := chosen.last? ["a", "A", "f"]
  let quoting :=
    match chosen.last? ["Q", "b", "N", "quoting-style", "q", "show-control-chars"] with
    | some "Q" => "c"
    | some "b" => "escape"
    | some "q" => "masked"
    | some "quoting-style" =>
      match chosen.value? "quoting-style" with
      | some "shell-escape" => "shell"
      | some "shell-escape-always" => "shell-always"
      | some s => s
      | none => "literal"
    | _ => "literal"
  let dates :=
    if chosen.has "full-time" then "full-iso"
    else
      match chosen.value? "time-style" with
      | some "locale" | none => ""
      | some s => if s.toList.head? == some '+' then String.ofList (s.toList.drop 1) else s
  { layout, order, marks, asEntries, following, quoting, dates, now
    hidden := hides.isSome, both := hides.any (· != "A"), whole := chosen.has "R"
    backwards := chosen.has "r", directoriesFirst := chosen.has "group-directories-first"
    sizes := chosen.has "s", numbers := chosen.has "i", owner := !chosen.has "g"
    group := !(chosen.has "o" || chosen.has "G"), byNumber := chosen.has "n"
    human := chosen.has "h" || chosen.has "si", backups := !chosen.has "B"
    ignored := ((chosen.filter (·.1 == "I")).map (·.2)) ++
      (if hides.isSome then [] else (chosen.filter (·.1 == "hide")).map (·.2))
    width := match (chosen.value? "w").bind String.toNat?, columns.bind String.toNat? with
      | some 0, _ => 100000
      | some n, _ => n
      | none, some n => n
      | none, none => 80 }

def ls (args : List String) : Tool Nat := do
  let (chosen, operands) ← ({
    letters := "aAbBcCdDfFgGhHiI:klLmnNopqQrRsStT:uUvw:xXZ1"
    words := [("all", "a"), ("almost-all", "A"), ("escape", "b"), ("directory", "d"),
      ("human-readable", "h"), ("inode", "i"), ("kibibytes", "k"), ("numeric-uid-gid", "n"),
      ("no-group", "G"), ("hide-control-chars", "q"), ("reverse", "r"), ("size", "s"),
      ("width:", "w"), ("ignore-backups", "B"), ("classify::", "F"), ("file-type", "file-type"),
      ("si", "si"), ("dereference-command-line", "H"),
      ("dereference-command-line-symlink-to-dir", "dereference-dirs"), ("hide:", "hide"),
      ("ignore:", "I"), ("indicator-style:", "indicator-style"), ("dereference", "L"),
      ("literal", "N"), ("quote-name", "Q"), ("quoting-style:", "quoting-style"),
      ("recursive", "R"), ("format:", "format"), ("show-control-chars", "show-control-chars"),
      ("sort:", "sort"), ("tabsize:", "T"), ("time:", "time"), ("time-style:", "time-style"),
      ("full-time", "full-time"), ("color::", "color"), ("block-size:", "block-size"),
      ("group-directories-first", "group-directories-first"), ("author", "author")] } :
    Choices).given args
  let l := listingOf chosen (← ask .clock) (← bindingOf? "COLUMNS")
  let paths := if operands.isEmpty then ["."] else operands
  let mut status := 0
  let mut found := []
  for path in paths do
    match ← l.entryAt path path true with
    | .ok e => found := e :: found
    | .error e => do
      complainOf ("cannot access " ++ shellQuoted path) e
      status := 2
  let entries := l.ordered found.reverse
  let (dirs, files) := entries.partition fun e =>
    !l.asEntries && e.status.any (·.kind == .directory)
  l.sayEntries files dirs
  if !files.isEmpty && !dirs.isEmpty then sayLine ""
  let mut isFirst := true
  for d in dirs do
    let (s, first) ← l.directory (1 < paths.length) depthLimit isFirst d.name
    status := max status s
    isFirst := first
  return status

end Ensemble.Utility
