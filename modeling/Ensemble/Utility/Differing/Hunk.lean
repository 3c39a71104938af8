import Ensemble.Text.Calendar
import Ensemble.Text.Difference

/-!
# Ensemble.Utility.Differing.Hunk

How **changes from one text to another** are told: change by change (`plainText`), as a script for an
editor (`editorText`), with the lines around them (`contextText`, `unifiedText`), or side by side
(`besideText`). Changes with few lines between them stand together in a hunk (`hunks`).
-/

namespace Ensemble.Utility.Differing

open Text (Change)

/-- One of two texts that are compared. Its lines hold their line feeds. -/
structure Side where
  name : String
  label : Option String := none
  time : Int
  lines : Array String

/-- A change of lines; one that does not matter is told only with others. -/
structure LineChange extends Change where
  minor : Bool := false

/-- How changes are told. -/
inductive Style
  | plain
  /-- A script that changes the first text, from its end on. -/
  | editor
  /-- The same, from its beginning on. -/
  | forward
  /-- Commands with numbers of lines. -/
  | numbered
  | context
  | unified
  | beside
  /-- Both texts together, with the lines of one under a condition. -/
  | merged (condition : String)
  /-- Each line in a format: old ones, new ones, and unchanged ones. -/
  | formatted (old new same : String)
deriving DecidableEq, Repr

/-- How much is told. -/
structure Telling where
  style : Style := .plain
  /-- How many lines are told around a change. -/
  around : Nat := 3
  /-- Which lines stand for what follows them. -/
  heads : Option (String → Bool) := none
  /-- Does a tab stand behind the mark of a line? -/
  tabbed : Bool := false
  width : Nat := 130
  /-- Of two texts side by side, are the common lines told in the first alone, or not at all? -/
  leftOnly : Bool := false
  changesOnly : Bool := false

/-- Is anything told of texts that do not differ? -/
def Telling.tellsSame (t : Telling) : Bool :=
  match t.style with
  | .beside => !t.changesOnly
  | .merged _ => true
  | .formatted _ _ same => same != ""
  | _ => false

/-- Two texts and the way in which they differ. -/
structure Comparison extends Telling where
  first : Side
  second : Side

namespace Comparison

/-! ### Lines -/

def isWhole (line : String) : Bool :=
  line.toList.getLast? == some '\n'

/-- A line behind its mark. -/
def marked (c : Comparison) (mark line : String) : String :=
  mark ++ (if c.tabbed then "\t" else " ") ++ line ++
    if isWhole line then "" else "\n\\ No newline at end of file\n"

/-- Lines of a text, from a place on. -/
def linesFrom (s : Side) (place count : Nat) : List String :=
  (s.lines.extract place (place + count)).toList

/-- A line close behind its mark. -/
def closely (c : Comparison) (mark line : String) : String :=
  (if c.tabbed then if mark == " " then "\t" else mark ++ "\t" else mark) ++ line ++
    if isWhole line then "" else "\n\\ No newline at end of file\n"

/-- The numbers of lines of a range; of an empty one, the number of the line before. -/
def rangeText (between : String) (place count : Nat) : String :=
  if 1 < count then toString (place + 1) ++ between ++ toString (place + count)
  else toString (place + count)

/-- The letter of a change. -/
def letter (h : Change) : String :=
  if h.gone = 0 then "a" else if h.come = 0 then "d" else "c"

/-! ### Change by change -/

def plainText (c : Comparison) (h : Change) : String :=
  let gone := linesFrom c.first h.first h.gone
  let come := linesFrom c.second h.second h.come
  rangeText "," h.first h.gone ++ letter h ++ rangeText "," h.second h.come ++ "\n" ++
    String.join (gone.map (c.marked "<")) ++
    (if gone.isEmpty || come.isEmpty then "" else "---\n") ++
    String.join (come.map (c.marked ">"))

/-- Lines that a script puts in. A line that would end them is put in twice as long and cut. -/
def inserted : Bool → List String → String
  | isOpen, [] => if isOpen then ".\n" else ""
  | isOpen, line :: lines =>
    (if isOpen then "" else "a\n") ++
      if line == ".\n" then "..\n.\ns/.//\n" ++ inserted false lines else line ++ inserted true lines

def editorText (c : Comparison) (h : Change) : String :=
  let come := linesFrom c.second h.second h.come
  rangeText "," h.first h.gone ++ letter h ++ "\n" ++ if come.isEmpty then "" else inserted true come

def forwardText (c : Comparison) (h : Change) : String :=
  let come := linesFrom c.second h.second h.come
  letter h ++ rangeText " " h.first h.gone ++ "\n" ++
    if come.isEmpty then "" else String.join come ++ ".\n"

def numberedText (c : Comparison) (h : Change) : String :=
  (if h.gone = 0 then "" else "d" ++ toString (h.first + 1) ++ " " ++ toString h.gone ++ "\n") ++
    if h.come = 0 then ""
    else
      "a" ++ toString (h.first + h.gone) ++ " " ++ toString h.come ++ "\n" ++
        String.join (linesFrom c.second h.second h.come)

/-! ### Hunks -/

/-- Changes that stand together: between two of them there are few lines, and fewer if one of them is
minor. -/
def hunks (around : Nat) : List LineChange → List (List LineChange)
  | [] => []
  | h :: hs =>
    match hunks around hs with
    | [] => [[h]]
    | group :: groups =>
      match group.head? with
      | none => [h] :: groups
      | some next =>
        let most := if h.minor || next.minor then around else 2 * around + 1
        if next.first - (h.first + h.gone) < most then (h :: group) :: groups
        else [h] :: group :: groups

/-- Where a hunk is, with the lines around it: a place and a number of lines in each text. -/
structure Extent where
  first : Nat
  count : Nat
  second : Nat
  countSecond : Nat

def extent (c : Comparison) (hs : List LineChange) : Extent :=
  let start : Change := (hs.head?.map (·.toChange)).getD ⟨0, 0, 0, 0⟩
  let last : Change := (hs.getLast?.map (·.toChange)).getD start
  let stop := min (last.first + last.gone + c.around) c.first.lines.size
  let stopSecond := min (last.second + last.come + c.around) c.second.lines.size
  let first := start.first - c.around
  let second := start.second - c.around
  ⟨first, stop - first, second, stopSecond - second⟩

/-- The line that stands for the place of a hunk. -/
def headText (c : Comparison) (place : Nat) : String :=
  match c.heads with
  | none => ""
  | some isHead =>
    match (linesFrom c.first 0 place).reverse.find? fun l => isHead (l.dropEndWhile (· == '\n')).toString with
    | none => ""
    | some line =>
      let isSpace (ch : Char) : Bool := ch == ' ' || ('\t' ≤ ch && ch ≤ '\r')
      let cs := (line.toList.dropWhile isSpace).takeWhile (· != '\n')
      " " ++ .ofList ((cs.take 40).reverse.dropWhile isSpace).reverse

/-- The lines of one of the texts in a hunk. A change is given by where it is, how many lines are
changed, and whether the other text has changed lines, too. -/
def contextLines (c : Comparison) (s : Side) (alone : String) (changes : List (Nat × Nat × Bool))
    (place count : Nat) : String :=
  let mark (i : Nat) : String :=
    match changes.find? fun (start, n, _) => start ≤ i && i < start + n with
    | some (_, _, true) => "!"
    | some (_, _, false) => alone
    | none => " "
  String.join ((linesFrom s place count).zipIdx.map fun (line, i) => c.marked (mark (place + i)) line)

def contextText (c : Comparison) (hs : List LineChange) : String :=
  let e := c.extent hs
  let range (place count : Nat) : String := rangeText "," place count
  "***************" ++ c.headText e.first ++ "\n*** " ++ range e.first e.count ++ " ****\n" ++
    (if hs.all (·.gone == 0) then ""
    else
      c.contextLines c.first "-" (hs.map fun h => (h.first, h.gone, h.come != 0)) e.first e.count) ++
    "--- " ++ range e.second e.countSecond ++ " ----\n" ++
    if hs.all (·.come == 0) then ""
    else
      c.contextLines c.second "+" (hs.map fun h => (h.second, h.come, h.gone != 0)) e.second e.countSecond

/-- The lines of a hunk from a place of the first text on. -/
def unifiedLines (c : Comparison) (stop : Nat) : Nat → List LineChange → String
  | place, [] => String.join ((linesFrom c.first place (stop - place)).map (c.closely " "))
  | place, h :: hs =>
    String.join ((linesFrom c.first place (h.first - place)).map (c.closely " ")) ++
      String.join ((linesFrom c.first h.first h.gone).map (c.closely "-")) ++
      String.join ((linesFrom c.second h.second h.come).map (c.closely "+")) ++
      unifiedLines c stop (h.first + h.gone) hs

def unifiedText (c : Comparison) (hs : List LineChange) : String :=
  let e := c.extent hs
  let range (place count : Nat) : String :=
    match count with
    | 0 => toString place ++ ",0"
    | 1 => toString (place + 1)
    | n => toString (place + 1) ++ "," ++ toString n
  "@@ -" ++ range e.first e.count ++ " +" ++ range e.second e.countSecond ++ " @@" ++
    c.headText e.first ++ "\n" ++ c.unifiedLines (e.first + e.count) e.first hs

/-- A name, between quotes if there is need of them. -/
def nameText (name : String) : String :=
  let text (ch : Char) : String :=
    match ch with
    | '"' => "\\\""
    | '\x5c' => "\\\\"
    | '\n' => "\\n"
    | '\t' => "\\t"
    | ch => ch.toString
  if name.toList.any fun ch => ch == '"' || ch == '\x5c' || ch.toNat ≤ 32 then
    "\"" ++ String.join (name.toList.map text) ++ "\""
  else name

/-- The line that names a text. -/
def headline (mark format : String) (s : Side) : String :=
  match s.label with
  | some label => mark ++ " " ++ label ++ "\n"
  | none =>
    mark ++ " " ++ nameText s.name ++ "\t" ++
      Text.Calendar.formatted (s.time / 1000000) (s.time % 1000000).toNat format ++ "\n"

/-! ### Side by side -/

/-- Where the columns are: how wide the first is, and where the second begins. -/
def columns (width : Nat) : Nat × Nat :=
  let unaligned := width / 2 + 5 + width % 2
  let place := unaligned - unaligned % 8
  let half := min (place - 3) (width - place)
  (half, if half = 0 then width else place)

/-- Blanks from one column to another; tabs as far as they reach. -/
def fill : Nat → Nat → Nat → String
  | 0, _, _ => ""
  | fuel + 1, start, stop =>
    let next := start + 8 - start % 8
    if next ≤ stop then "\t" ++ fill fuel next stop else .ofList (List.replicate (stop - start) ' ')

/-- As much of a line as fits into a column, and where it ends. `read` is where it would be without a
limit. -/
def halfLine (most : Nat) : List Char → Nat → Nat → String → String × Nat
  | [], _, column, done => (done, column)
  | '\n' :: _, _, column, done => (done, column)
  | '\t' :: cs, read, column, done =>
    let next := read + 8 - read % 8
    if read = column && next < most then halfLine most cs next next (done ++ "\t")
    else halfLine most cs next column done
  | ch :: cs, read, column, done =>
    if read < most then halfLine most cs (read + 1) (read + 1) (done ++ ch.toString)
    else halfLine most cs (read + 1) column done

/-- Two lines side by side, with a mark between them. -/
def besideLine (width : Nat) (mark : Char) (left right : Option String) : String :=
  let (half, place) := columns width
  let (leftText, column) := match left with | some l => halfLine half l.toList 0 0 "" | none => ("", 0)
  let whole (l : Option String) : Bool := (l.map isWhole).getD false
  let mark :=
    if mark == '|' && whole left != whole right then if whole left then '/' else '\x5c' else mark
  let middle := (half + place - 1) / 2
  let (markText, column) :=
    if mark == ' ' then ("", column)
    else (fill width column middle ++ mark.toString, middle + 1)
  let rightText :=
    match right with
    | none | some "\n" => ""
    | some r => fill width column place ++ (halfLine half r.toList 0 0 "").1
  leftText ++ markText ++ rightText ++ if whole left || whole right then "\n" else ""

/-- Lines that are the same in both texts. -/
def commonLines (c : Comparison) (place count other countOther : Nat) : String :=
  if c.changesOnly then ""
  else
    let lefts := linesFrom c.first place count
    let rights := linesFrom c.second other countOther
    let line := besideLine c.width
    if c.leftOnly then String.join (lefts.map fun l => line '(' (some l) none)
    else
      String.join ((lefts.zip rights).map fun (l, r) => line ' ' (some l) (some r)) ++
        String.join ((rights.drop lefts.length).map fun r => line ')' none (some r)) ++
        String.join ((lefts.drop rights.length).map fun l => line '(' (some l) none)

def besideText (c : Comparison) : Nat → Nat → List LineChange → String
  | place, other, [] =>
    c.commonLines place (c.first.lines.size - place) other (c.second.lines.size - other)
  | place, other, h :: hs =>
    let lefts := linesFrom c.first h.first h.gone
    let rights := linesFrom c.second h.second h.come
    let line := besideLine c.width
    c.commonLines place (h.first - place) other (h.second - other) ++
      String.join ((lefts.zip rights).map fun (l, r) => line '|' (some l) (some r)) ++
      String.join ((rights.drop lefts.length).map fun r => line '>' none (some r)) ++
      String.join ((lefts.drop rights.length).map fun l => line '<' (some l) none) ++
      besideText c (h.first + h.gone) (h.second + h.come) hs

/-! ### Both texts together -/

/-- Lines under a condition. -/
def conditional (condition : String) (old new : List String) : String :=
  let whole (lines : List String) : List String := lines.map fun l => if isWhole l then l else l ++ "\n"
  let old := whole old
  let new := whole new
  if old.isEmpty then
    "#ifdef " ++ condition ++ "\n" ++ String.join new ++ "#endif /* " ++ condition ++ " */\n"
  else if new.isEmpty then
    "#ifndef " ++ condition ++ "\n" ++ String.join old ++ "#endif /* ! " ++ condition ++ " */\n"
  else
    "#ifndef " ++ condition ++ "\n" ++ String.join old ++ "#else /* " ++ condition ++ " */\n" ++
      String.join new ++ "#endif /* " ++ condition ++ " */\n"

/-- A line in a format. -/
def lineText (format : List Char) (number : Nat) (line : String) : String :=
  let content := (line.dropEndWhile (· == '\n')).toString
  let rec go : List Char → String
    | '%' :: 'l' :: cs => content ++ go cs
    | '%' :: 'L' :: cs => line ++ go cs
    | '%' :: '%' :: cs => "%" ++ go cs
    | '%' :: 'd' :: 'n' :: cs => toString number ++ go cs
    | c :: cs => c.toString ++ go cs
    | [] => ""
  go format

def formattedLines (format : String) (place : Nat) (lines : List String) : String :=
  String.join (lines.zipIdx.map fun (l, i) => lineText format.toList (place + i + 1) l)

/-- All lines, with those that differ in their own way. -/
def togetherText (c : Comparison) (same : Nat → List String → String)
    (differ : Nat → Nat → List String → List String → String) : Nat → List LineChange → String
  | place, [] => same place (linesFrom c.first place (c.first.lines.size - place))
  | place, h :: hs =>
    same place (linesFrom c.first place (h.first - place)) ++
      differ h.first h.second (linesFrom c.first h.first h.gone) (linesFrom c.second h.second h.come) ++
      togetherText c same differ (h.first + h.gone) hs

/-! ### All changes -/

def text (c : Comparison) (changes : List LineChange) : String :=
  let telling := changes.filter fun h => !h.minor
  let inHunks (tell : List LineChange → String) : String :=
    String.join (((hunks c.around changes).filter fun hs => hs.any fun h => !h.minor).map tell)
  match c.style with
  | .plain => String.join (telling.map fun h => c.plainText h.toChange)
  | .editor => String.join (telling.reverse.map fun h => c.editorText h.toChange)
  | .forward => String.join (telling.map fun h => c.forwardText h.toChange)
  | .numbered => String.join (telling.map fun h => c.numberedText h.toChange)
  | .context =>
    headline "***" "%a %b %e %H:%M:%S %Y" c.first ++ headline "---" "%a %b %e %H:%M:%S %Y" c.second ++
      inHunks c.contextText
  | .unified =>
    headline "---" "%Y-%m-%d %H:%M:%S.%N %z" c.first ++
      headline "+++" "%Y-%m-%d %H:%M:%S.%N %z" c.second ++ inHunks c.unifiedText
  | .beside => c.besideText 0 0 telling
  | .merged condition =>
    c.togetherText (fun _ ls => String.join ls) (fun _ _ old new => conditional condition old new) 0 telling
  | .formatted old new same =>
    c.togetherText (formattedLines same)
      (fun i j gone come => formattedLines old i gone ++ formattedLines new j come) 0 telling

end Comparison

end Ensemble.Utility.Differing
