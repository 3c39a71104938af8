import Ensemble.Utility.Counting
import Ensemble.Utility.Ordering

/-!
# Ensemble.Utility.Sorting

**Sorting** lines. A line is compared by its keys, each a part of the line with an order of its own,
and at last as a whole; of lines that are alike in all this the one that came first stays first. A key
that says nothing about its order has the order that is said for all.
-/

namespace Ensemble.Utility

/-- How parts of lines are compared. -/
structure KeyOrder where
  /-- The letters of the options, without those about blanks. -/
  letters : List Char := []
  /-- Are blanks passed over where a key starts, and where it ends? -/
  startBlanks : Bool := false
  endBlanks : Bool := false
deriving DecidableEq, Repr

namespace KeyOrder

def has (o : KeyOrder) (c : Char) : Bool :=
  o.letters.contains c

/-- Is nothing said about the order, or only that it is turned around? -/
def isDefault (o : KeyOrder) : Bool :=
  (o.letters.filter (· != 'r')).isEmpty && !o.startBlanks && !o.endBlanks

/-- The letters that compare by values, of which only one is possible. -/
def kinds (o : KeyOrder) : Nat :=
  let one (cs : List Char) : Nat := if cs.any o.has then 1 else 0
  one ['n'] + one ['g'] + one ['h'] + one ['M'] + one ['V', 'R'] + one ['d', 'i']

/-- The letters as they are told, in their order. -/
def text (o : KeyOrder) : String :=
  .ofList ("dfghiMnRV".toList.filter fun c => o.has c && !(c == 'i' && o.has 'd'))

/-- The characters that count, as they count. -/
def counted (o : KeyOrder) (cs : List Char) : List Char :=
  let kept :=
    if o.has 'd' then cs.filter fun c => c == ' ' || c == '\t' || c.isAlphanum
    else if o.has 'i' then cs.filter isPrintable
    else cs
  if o.has 'f' then kept.map Char.toUpper else kept

/-- The order of two parts of lines. -/
def compare (o : KeyOrder) (a b : List Char) : Ordering :=
  let r :=
    if o.has 'n' then compareNumbers a b
    else if o.has 'g' then compareReals a b
    else if o.has 'h' then compareAmounts a b
    else if o.has 'M' then Ord.compare (monthOf a) (monthOf b)
    else if o.has 'V' then compareVersions (o.counted a) (o.counted b)
    else compareTexts (o.counted a) (o.counted b)
  if o.has 'r' then r.swap else r

end KeyOrder

/-- A part of a line: from a field and a character in it, to behind a field and a character. -/
structure SortKey where
  startField : Nat := 0
  startChar : Nat := 0
  /-- The last field, and how many of its characters, or 0 for all; none if the key goes to the end. -/
  stop : Option (Nat × Nat) := none
  order : KeyOrder := {}
deriving DecidableEq, Repr

namespace SortKey

def isBlank (c : Char) : Bool :=
  c == ' ' || c == '\t' || c == '\n'

/-- What is left of a line behind its first fields. -/
def behindFields (separator : Option Char) : Nat → List Char → List Char
  | 0, cs => cs
  | n + 1, cs =>
    match separator with
    | some s => behindFields separator n ((cs.dropWhile (· != s)).drop 1)
    | none => behindFields separator n ((cs.dropWhile isBlank).dropWhile (!isBlank ·))

/-- How many characters of a line lie before the end of its first fields, without what separates the
last one from the next. -/
def lengthOfFields (separator : Option Char) (n : Nat) (cs : List Char) : Nat :=
  match separator, n with
  | _, 0 => 0
  | none, n => cs.length - (behindFields none n cs).length
  | some s, n + 1 =>
    let rest := behindFields separator n cs
    cs.length - (rest.dropWhile (· != s)).length

/-- The part of a line that a key is. -/
def part (k : SortKey) (separator : Option Char) (line : List Char) : List Char :=
  let start := behindFields separator k.startField line
  let start := if k.order.startBlanks then start.dropWhile isBlank else start
  let start := start.drop k.startChar
  match k.stop with
  | none => start
  | some (field, 0) =>
    let length := lengthOfFields separator (field + 1) line
    start.take (length - (line.length - start.length))
  | some (field, chars) =>
    let rest := behindFields separator field line
    let rest := if k.order.endBlanks then rest.dropWhile isBlank else rest
    let length := line.length - (rest.drop chars).length
    start.take (length - (line.length - start.length))

/-! ### Reading -/

/-- A key that is no key. -/
def invalid (given why : String) : Tool α :=
  giveUp 2 (why ++ ": invalid field specification " ++ quoted given)

/-- A number in a key, and what follows it. -/
def count (why : String) (cs : List Char) : Tool (Nat × List Char) := do
  let digits := cs.takeWhile Char.isDigit
  if digits.isEmpty then
    giveUp 2 ("invalid number " ++ why ++ ": invalid count at start of " ++ quoted (.ofList cs))
  return ((Shell.Numeral.digits 10 digits).1, cs.drop digits.length)

/-- The letters of a key, and what follows them. -/
def letters (atStart : Bool) (o : KeyOrder) : List Char → KeyOrder × List Char
  | c :: cs =>
    if c == 'b' then
      letters atStart (if atStart then { o with startBlanks := true } else { o with endBlanks := true }) cs
    else if "dfghiMnrRV".toList.contains c then letters atStart { o with letters := o.letters ++ [c] } cs
    else (o, c :: cs)
  | [] => (o, [])

/-- Read a key. -/
def read (given : String) : Tool SortKey := do
  let (field, rest) ← count "at field start" given.toList
  if field = 0 then invalid given "field number is zero"
  let (char, rest) ←
    match rest with
    | '.' :: rest => do
      let (n, rest) ← count "after '.'" rest
      if n = 0 then invalid given "character offset is zero"
      pure (n - 1, rest)
    | rest => pure (0, rest)
  let (order, rest) := letters true {} rest
  let key : SortKey := { startField := field - 1, startChar := char, order }
  match rest with
  | [] => return key
  | ',' :: rest => do
    let (field, rest) ← count "after ','" rest
    if field = 0 then invalid given "field number is zero"
    let (char, rest) ←
      match rest with
      | '.' :: rest => count "after '.'" rest
      | rest => pure (0, rest)
    let (order, rest) := letters false order rest
    if !rest.isEmpty then invalid given "stray character in field spec"
    return { key with stop := some (field - 1, char), order }
  | _ => invalid given "stray character in field spec"

end SortKey

/-- How lines are sorted. -/
structure Sorting where
  order : KeyOrder := {}
  keys : List SortKey := []
  separator : Option Char := none
  stable : Bool := false
  unique : Bool := false
  /-- Are the inputs taken to be sorted already? -/
  merges : Bool := false
  stop : Char := '\n'
  /-- Is it only asked whether the lines are sorted, and if so, is nothing told? -/
  check : Option Char := none
  output : Option String := none

namespace Sorting

/-- The keys that count, each with its order. -/
def keysInForce (s : Sorting) : List SortKey :=
  if s.keys.isEmpty then
    if s.order.isDefault then [] else [{ order := s.order }]
  else s.keys.map fun k =>
    if k.order.isDefault && !k.order.has 'r' then { k with order := s.order } else k

/-- The order of lines by keys alone. -/
def compareKeys (s : Sorting) (keys : List SortKey) (a b : List Char) : Ordering :=
  keys.foldl (fun o k =>
    o.then (k.order.compare (k.part s.separator a) (k.part s.separator b))) .eq

/-- The order of lines. -/
def compare (s : Sorting) (keys : List SortKey) (a b : List Char) : Ordering :=
  let byKeys := s.compareKeys keys a b
  if !keys.isEmpty && (s.unique || s.stable) then byKeys
  else
    let whole := compareTexts a b
    byKeys.then (if s.order.has 'r' then whole.swap else whole)

/-- Of lines that are alike one after the other only the first. -/
def distinct (s : Sorting) (keys : List SortKey) : List (List Char) → List (List Char)
  | a :: b :: rest =>
    if s.compare keys a b == .eq then distinct s keys (a :: rest)
    else a :: distinct s keys (b :: rest)
  | lines => lines

/-- The lines of all inputs in their order. -/
def sorted (s : Sorting) (inputs : List (List (List Char))) : List (List Char) :=
  let keys := s.keysInForce
  let precedes (a b : List Char) : Bool := s.compare keys a b != .gt
  let lines :=
    if s.merges then inputs.foldl (fun lines input => lines.merge input precedes) []
    else inputs.flatten.mergeSort precedes
  if s.unique then s.distinct keys lines else lines

/-- The number of the first line that stands where it should not, and the line. -/
def disorder? (s : Sorting) (keys : List SortKey) : Nat → List (List Char) → Option (Nat × List Char)
  | n, a :: b :: rest =>
    let o := s.compare keys a b
    if o == .gt || (s.unique && o == .eq) then some (n + 1, b) else disorder? s keys (n + 1) (b :: rest)
  | _, _ => none

/-- Is there a key that would be compared in two ways? -/
def checkOrders (s : Sorting) : Tool Unit := do
  for k in s.keysInForce do
    if 1 < k.order.kinds then
      giveUp 2 ("options " ++ quoted ("-" ++ k.order.text) ++ " are incompatible")

/-- Sorting with an option taken into account. -/
def withOption (s : Sorting) (name : String) (value : Option String) : Tool Sorting := do
  let v := value.getD ""
  match name with
  | "b" => return { s with order := { s.order with startBlanks := true, endBlanks := true } }
  | "k" => return { s with keys := s.keys ++ [← SortKey.read v] }
  | "o" => return { s with output := some v }
  | "s" => return { s with stable := true }
  | "u" => return { s with unique := true }
  | "z" => return { s with stop := '\x00' }
  | "m" => return { s with merges := true }
  | "t" =>
    match v.toList with
    | [] => giveUp 2 "empty tab"
    | [c] => return { s with separator := some c }
    | ['\x5c', '0'] => return { s with separator := some '\x00' }
    | _ => giveUp 2 ("multi-character tab " ++ quoted v)
  | "c" | "C" => do
    let kind ←
      match name, value with
      | "c", some v => do
        let word ← oneOf "--check" ["quiet", "silent", "diagnose-first"] v
        pure (if word = "diagnose-first" then 'c' else 'C')
      | name, _ => pure (if name = "c" then 'c' else 'C')
    if s.check.any (· != kind) then giveUp 2 ("options " ++ quoted "-cC" ++ " are incompatible")
    return { s with check := some kind }
  | "sort" => do
    let word ← oneOf "--sort" ["general-numeric", "human-numeric", "month", "numeric", "random",
      "version"] v
    let letter :=
      match word with
      | "general-numeric" => 'g'
      | "human-numeric" => 'h'
      | "month" => 'M'
      | "numeric" => 'n'
      | "random" => 'R'
      | _ => 'V'
    return { s with order := { s.order with letters := s.order.letters ++ [letter] } }
  | name =>
    return { s with order := { s.order with letters := s.order.letters ++ name.toList.take 1 } }

/-- The lines of each input. -/
def readLines (s : Sorting) : List String → List (List (List Char)) → Tool (List (List (List Char)))
  | [], lines => return lines.reverse
  | path :: paths, lines => do
    match ← contentOf path with
    | .text t => s.readLines paths (((Text.cutAfter s.stop t.toList).map (bare s.stop)) :: lines)
    | .notOpened e => giveUp 2 ("cannot read: " ++ nameOf path ++ ": " ++ e.message)
    | .notRead e => giveUp 2 ("read failed: " ++ nameOf path ++ ": " ++ e.message)

end Sorting

def sort (args : List String) : Tool Nat := do
  let choices : Choices := {
    letters := "bcCdfghik:mMno:rRsS:t:T:uVz"
    words := [("ignore-leading-blanks", "b"), ("check::", "c"), ("dictionary-order", "d"),
      ("ignore-case", "f"), ("general-numeric-sort", "g"), ("human-numeric-sort", "h"),
      ("ignore-nonprinting", "i"), ("key:", "k"), ("merge", "m"), ("month-sort", "M"),
      ("numeric-sort", "n"), ("random-sort", "R"), ("version-sort", "V"), ("output:", "o"),
      ("reverse", "r"), ("stable", "s"), ("buffer-size:", "S"), ("field-separator:", "t"),
      ("temporary-directory:", "T"), ("unique", "u"), ("zero-terminated", "z"), ("sort:", "sort"),
      ("parallel:", "S")] }
  let (s, operands) ← choices.fold args ({} : Sorting) fun s name value =>
    if name = "S" || name = "T" then return s else s.withOption name value
  s.checkOrders
  let paths := if operands.isEmpty then ["-"] else operands
  match s.check, operands with
  | some c, _ :: extra :: _ =>
    giveUp 2 ("extra operand " ++ quoted extra ++ " not allowed with -" ++ c.toString)
  | _, _ => pure ()
  match s.check, s.output with
  | some c, some _ => giveUp 2 ("options " ++ quoted ("-" ++ c.toString ++ "o") ++ " are incompatible")
  | _, _ => pure ()
  let inputs ← s.readLines paths []
  match s.check with
  | some c =>
    match s.disorder? s.keysInForce 1 inputs.flatten with
    | none => return 0
    | some (n, line) => do
      if c == 'c' then
        complain (paths.headD "-" ++ ":" ++ toString n ++ ": disorder: " ++ .ofList line)
      return 1
  | none => do
    let text := String.join ((s.sorted inputs).map fun l => .ofList (l ++ [s.stop]))
    match s.output with
    | none => say text
    | some path =>
      match ← ask (.openFile path { writes := true, create := true, truncate := true }) with
      | .error e => giveUp 2 ("open failed: " ++ nameOf path ++ ": " ++ e.message)
      | .ok fd => do
        match ← writeTo fd (text.length + 1) text with
        | none => pure ()
        | some e => giveUp 2 ("write failed: " ++ nameOf path ++ ": " ++ e.message)
    return 0

/-! ### Lines that are alike -/

/-- What lines are shown of those that are alike. -/
structure Uniting where
  counts : Bool := false
  /-- Lines that stand alone, the first of those that do not, and the others. -/
  alone : Bool := true
  first : Bool := true
  others : Bool := false
  /-- Where an empty line stands between groups. -/
  between : String := "none"
  /-- Are all lines shown, in groups? -/
  groups : Option String := none
  foldsCase : Bool := false
  fields : Nat := 0
  chars : Nat := 0
  width : Option Nat := none
  stop : Char := '\n'

namespace Uniting

/-- The part of a line that counts. -/
def counted (u : Uniting) (line : List Char) : List Char :=
  let isBlank (c : Char) : Bool := c == ' ' || c == '\t'
  let rest := u.fields.fold (fun _ _ cs => (cs.dropWhile isBlank).dropWhile (!isBlank ·)) line
  let rest := rest.drop u.chars
  let rest := match u.width with | some n => rest.take n | none => rest
  if u.foldsCase then rest.map Char.toLower else rest

/-- Groups of lines that are alike. -/
def group (u : Uniting) : List (List Char) → List (List (List Char))
  | [] => []
  | line :: lines =>
    match u.group lines with
    | (next :: more) :: groups =>
      if u.counted line == u.counted next then (line :: next :: more) :: groups
      else [line] :: (next :: more) :: groups
    | groups => [line] :: groups

/-- A number of lines in its column. -/
def countText (n : Nat) : String :=
  let digits := toString n
  .ofList (List.replicate (7 - digits.length) ' ') ++ digits ++ " "

/-- What is shown of a group. -/
def shown (u : Uniting) (lines : List (List Char)) : List (List Char) :=
  match lines with
  | [] => []
  | [line] => if u.alone then [line] else []
  | line :: more => (if u.first then [line] else []) ++ (if u.others then more else [])

/-- The lines of a text, united. -/
def unite (u : Uniting) (text : String) : String :=
  let groups := u.group ((Text.cutAfter u.stop text.toList).map (bare u.stop))
  let end' := u.stop.toString
  let ofLines (lines : List (List Char)) : String := String.join (lines.map fun l => .ofList l ++ end')
  match u.groups with
  | some place =>
    let parts := groups.map ofLines
    let joined := end'.intercalate parts
    if parts.isEmpty then ""
    else
      (if place = "prepend" || place = "both" then end' else "") ++ joined ++
        (if place = "append" || place = "both" then end' else "")
  | none =>
    let parts := (groups.map fun g => (g, u.shown g)).filter fun (_, lines) => !lines.isEmpty
    let texts := parts.map fun (g, lines) =>
      if u.counts then countText g.length ++ ofLines lines else ofLines lines
    match u.between with
    | "prepend" => String.join (texts.map (end' ++ ·))
    | "separate" => end'.intercalate texts
    | _ => String.join texts

end Uniting

/-- A number that `uniq` is given. -/
def uniqCount (what v : String) : Tool Nat := do
  match Amount.ofString v, v.toList.getLast?.any Char.isDigit with
  | .given n, true => return n
  | .tooLarge, _ => return UInt64.size
  | _, _ => giveUp 1 (nameOf v ++ ": invalid number of " ++ what)

def uniq (args : List String) : Tool Nat := do
  let isOld (a : String) : Bool :=
    match a.toList with
    | '+' :: c :: cs => (c :: cs).all Char.isDigit
    | _ => false
  let choices : Choices := {
    letters := "0123456789cdDf:is:uw:z"
    words := [("count", "c"), ("repeated", "d"), ("all-repeated::", "D"), ("group::", "group"),
      ("ignore-case", "i"), ("unique", "u"), ("skip-fields:", "f"), ("skip-chars:", "s"),
      ("check-chars:", "w"), ("zero-terminated", "z")] }
  let (u, operands) ← choices.fold args ({} : Uniting) fun u name value => do
    let v := value.getD ""
    match name with
    | "c" => return { u with counts := true }
    | "d" => return { u with alone := false }
    | "D" => do
      let between ← match value with
        | some v => oneOf "--all-repeated" ["none", "prepend", "separate"] v
        | none => pure "none"
      return { u with alone := false, others := true, between }
    | "group" => do
      let place ← match value with
        | some v => oneOf "--group" ["prepend", "append", "separate", "both"] v
        | none => pure "separate"
      return { u with groups := some place }
    | "i" => return { u with foldsCase := true }
    | "u" => return { u with first := false }
    | "f" => return { u with fields := ← uniqCount "fields to skip" v }
    | "s" => return { u with chars := ← uniqCount "bytes to skip" v }
    | "w" => return { u with width := some (← uniqCount "bytes to compare" v) }
    | "z" => return { u with stop := '\x00' }
    | digit => return { u with fields := u.fields * 10 + (Shell.Numeral.digits 10 digit.toList).1 }
  let old := operands.filter isOld
  let operands := operands.filter (!isOld ·)
  let u := match old.head? with
    | some a => { u with chars := (Shell.Numeral.digits 10 (a.toList.drop 1)).1 }
    | none => u
  if u.groups.isSome && (u.counts || u.others || !u.alone || !u.first) then
    misused "--group is mutually exclusive with -c/-d/-D/-u"
  if u.counts && u.others then
    misused "printing all duplicated lines and repeat counts is meaningless"
  match operands with
  | _ :: _ :: extra :: _ => misused ("extra operand " ++ quoted extra)
  | _ => pure ()
  let path := operands.headD "-"
  match ← contentOf path with
  | .notOpened e => giveUp 1 (nameOf path ++ ": " ++ e.message)
  | .notRead e => giveUp 1 ("error reading " ++ shellQuoted path ++ ": " ++ e.message)
  | .text s => do
    let text := u.unite s
    match operands[1]? with
    | none | some "-" => say text
    | some output =>
      match ← ask (.openFile output { writes := true, create := true, truncate := true }) with
      | .error e => giveUp 1 (nameOf output ++ ": " ++ e.message)
      | .ok fd => do
        let _ ← writeTo fd (text.length + 1) text
    return 0

end Ensemble.Utility
