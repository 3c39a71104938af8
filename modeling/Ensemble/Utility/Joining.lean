import Ensemble.Utility.Concatenation

/-!
# Ensemble.Utility.Joining

Utilities that put **lines of several inputs together**: `paste` lines at the same place, and `join`
lines that have a field in common. The inputs of `join` are in the order of that field.
-/

namespace Ensemble.Utility

/-! ### Lines at the same place -/

/-- The characters of a list of separators, in which a backslash leads an escape; none if one stands
alone at the end. An empty separator is none. -/
def separatorsOf? : List Char → Option (List (Option Char))
  | [] => some []
  | ['\x5c'] => none
  | '\x5c' :: c :: cs =>
    let separator : Option Char :=
      match c with
      | '0' => none
      | 'b' => some '\x08'
      | 'f' => some '\x0c'
      | 'n' => some '\n'
      | 'r' => some '\r'
      | 't' => some '\t'
      | 'v' => some '\x0b'
      | c => some c
    (separatorsOf? cs).map (separator :: ·)
  | c :: cs => (separatorsOf? cs).map (some c :: ·)

/-- Texts with separators between them, which are taken in turn. -/
def joinedInTurn (separators : List (Option Char)) (texts : List (List Char)) : List Char :=
  let between (n : Nat) : List Char := ((separators[n % separators.length]?).join).toList
  (texts.zipIdx.map fun (t, n) => if n = 0 then t else between (n - 1) ++ t).flatten

/-- The rows of lines at the same place. -/
def rowsOf : Nat → List (List (List Char)) → List (List (List Char))
  | 0, _ => []
  | fuel + 1, columns =>
    if columns.all (·.isEmpty) then []
    else columns.map (·.headD []) :: rowsOf fuel (columns.map (·.drop 1))

/-- Give the lines of an input in turn to all columns that read it. -/
def dealt (width place : Nat) (lines : List (List Char)) : List (List Char) :=
  (lines.zipIdx.filter fun (_, n) => n % width == place).map (·.1)

def paste (args : List String) : Tool Nat := do
  let (chosen, operands) ← ({
    letters := "d:sz"
    words := [("delimiters:", "d"), ("serial", "s"), ("zero-terminated", "z")] } : Choices).given args
  let paths := if operands.isEmpty then ["-"] else operands
  let list := (chosen.value? "d").getD "\t"
  let separators ←
    match separatorsOf? list.toList with
    | some [] => pure [none]
    | some s => pure s
    | none => giveUp 1 ("delimiter list ends with an unescaped backslash: " ++ list)
  let stop := if chosen.has "z" then '\x00' else '\n'
  let linesIn (s : String) : List (List Char) := (Text.cutAfter stop s.toList).map (bare stop)
  let written (texts : List (List Char)) : Tool Unit :=
    say (.ofList (joinedInTurn separators texts) ++ stop.toString)
  if chosen.has "s" then
    forEach paths fun path => do
      match ← contentOf path with
      | .text s => do
        written (linesIn s)
        return 0
      | .notOpened e | .notRead e => do
        complainOf (nameOf path) e
        return 1
  else
    let mut columns : List (List (List Char)) := []
    let mut status := 0
    let readers := (paths.filter (· == "-")).length
    let mut common : Option (List (List Char)) := none
    let mut taken := 0
    for path in paths do
      if path = "-" then
        let lines ←
          match common with
          | some lines => pure lines
          | none =>
            match ← contentOf path with
            | .text s => pure (linesIn s)
            | .notOpened _ | .notRead _ => pure []
        common := some lines
        columns := columns ++ [dealt readers taken lines]
        taken := taken + 1
      else
        match ← contentOf path with
        | .text s => columns := columns ++ [linesIn s]
        | .notOpened e => giveUp 1 (nameOf path ++ ": " ++ e.message)
        | .notRead e => do
          complainOf (nameOf path) e
          status := 1
          columns := columns ++ [[]]
    let height := columns.foldl (fun n c => max n c.length) 0
    for row in rowsOf (height + 1) columns do written row
    return status

/-! ### Lines with a field in common -/

/-- A line with its fields. -/
structure FieldLine where
  text : List Char
  fields : List (List Char)

/-- A field of what is put together: of both inputs together, or of one. -/
inductive JoinField
  | common
  | of (file place : Nat)
deriving DecidableEq, Repr

/-- How lines are put together. -/
structure LineJoining where
  /-- What stands between fields; without it they are between blanks. -/
  separator : Option Char := none
  /-- Is a line one field? -/
  isWhole : Bool := false
  places : Nat × Nat := (0, 0)
  /-- Are lines told that have no fellow, and those that have one? -/
  alone : Bool × Bool := (false, false)
  paired : Bool := true
  form : Option (List JoinField) := none
  filler : List Char := []
  ignoresCase : Bool := false
  strict : Bool := false
  lax : Bool := false
  stop : Char := '\n'
  names : String × String

namespace LineJoining

def isGap (c : Char) : Bool :=
  c == ' ' || c == '\t' || c == '\n'

/-- The fields of a line between blanks. -/
def blankFields : Nat → List Char → List (List Char)
  | 0, _ => []
  | fuel + 1, cs =>
    let cs := cs.dropWhile isGap
    if cs.isEmpty then []
    else
      let field := cs.takeWhile (!isGap ·)
      let rest := cs.drop field.length
      match rest with
      | [] => [field]
      | _ =>
        if (rest.dropWhile isGap).isEmpty then [field, []] else field :: blankFields fuel rest

def lineOf (j : LineJoining) (text : List Char) : FieldLine :=
  { text
    fields :=
      if j.isWhole then [text]
      else
        match j.separator with
        | some c => let (f, fs) := Text.cutBetween c text; if text.isEmpty then [] else f :: fs
        | none => blankFields (text.length + 1) text }

/-- A key as it is compared. -/
def keyOf (j : LineJoining) (place : Nat) (l : FieldLine) : String :=
  let key := (l.fields[place]?).getD []
  .ofList (if j.ignoresCase then key.map Char.toUpper else key)

/-- The field that a line has at a place, or what stands for it. -/
def fieldOr (j : LineJoining) (place : Nat) (l : FieldLine) : List Char :=
  match l.fields[place]? with
  | some [] | none => j.filler
  | some f => f

/-- Put two lines together, of which one may be missing. -/
def put (j : LineJoining) (a b : Option FieldLine) : Tool Unit := do
  let empty : FieldLine := ⟨[], []⟩
  let common : List Char :=
    match a, b with
    | some a, _ => j.fieldOr j.places.1 a
    | none, some b => j.fieldOr j.places.2 b
    | none, none => []
  let fields : List (List Char) :=
    match j.form with
    | some form =>
      form.map fun
        | .common => common
        | .of 1 n => j.fieldOr n (a.getD empty)
        | .of _ n => j.fieldOr n (b.getD empty)
    | none =>
      let others (place : Nat) (l : Option FieldLine) : List (List Char) :=
        match l with
        | none => []
        | some l =>
          (List.range l.fields.length).filterMap fun n =>
            if n = place then none else some (j.fieldOr n l)
      common :: others j.places.1 a ++ others j.places.2 b
  let between := (j.separator.getD ' ').toString
  say (between.intercalate (fields.map String.ofList) ++ j.stop.toString)

/-- An input: what is still to come of it, and what has come. -/
structure Source where
  rest : List (List Char)
  before : Option FieldLine := none
  /-- The number of the line before. -/
  number : Nat := 0
  /-- Has it been found to be out of order? -/
  wrong : Bool := false

/-- Take a line from an input and look at its order, if lines without a fellow have been seen. -/
def take (j : LineJoining) (isFirst uneven : Bool) (s : Source) : Tool (Option FieldLine × Source) := do
  match s.rest with
  | [] => return (none, s)
  | text :: rest => do
    let line := j.lineOf text
    let place := if isFirst then j.places.1 else j.places.2
    let isWrong :=
      match s.before with
      | some b => decide (j.keyOf place line < j.keyOf place b)
      | none => false
    let looks := !s.wrong && !j.lax && (j.strict || uneven)
    let mut wrong := s.wrong
    if looks && isWrong then
      let told := (if isFirst then j.names.1 else j.names.2) ++ ":" ++ toString (s.number + 1) ++
        ": is not sorted: " ++ String.ofList text
      if j.strict then giveUp 1 told
      complain told
      wrong := true
    return (some line, ⟨rest, some line, s.number + 1, wrong⟩)

/-- Take the lines from an input that have a key, given the first of them; the answer is all of them,
and the line behind them. -/
def takeAlike (j : LineJoining) (isFirst uneven : Bool) (key : String) :
    Nat → List FieldLine → Source → Tool (List FieldLine × Option FieldLine × Source)
  | 0, group, s => return (group.reverse, none, s)
  | fuel + 1, group, s => do
    match ← j.take isFirst uneven s with
    | (none, s) => return (group.reverse, none, s)
    | (some l, s) =>
      let place := if isFirst then j.places.1 else j.places.2
      if j.keyOf place l == key then takeAlike j isFirst uneven key fuel (l :: group) s
      else return (group.reverse, some l, s)

/-- Take the rest of an input, whose lines have no fellows. -/
def takeRest (j : LineJoining) (isFirst uneven told : Bool) : Nat → Source → Tool Source
  | 0, s => return s
  | fuel + 1, s => do
    match ← j.take isFirst uneven s with
    | (none, s) => return s
    | (some l, s) => do
      if told then if isFirst then j.put (some l) none else j.put none (some l)
      takeRest j isFirst uneven told fuel s

/-- Put the lines of two inputs together; the answer is whether they were in order. -/
def run (j : LineJoining) :
    Nat → Bool → Option FieldLine → Option FieldLine → Source → Source → Tool Bool
  | 0, _, _, _, s, t => return !(s.wrong || t.wrong)
  | fuel + 1, uneven, some a, some b, s, t => do
    let keyA := j.keyOf j.places.1 a
    let keyB := j.keyOf j.places.2 b
    match compare keyA keyB with
    | .lt => do
      if j.alone.1 then j.put (some a) none
      let (next, s) ← j.take true uneven s
      run j fuel true next (some b) s t
    | .gt => do
      if j.alone.2 then j.put none (some b)
      let (next, t) ← j.take false uneven t
      run j fuel true (some a) next s t
    | .eq => do
      let (groupA, nextA, s) ← j.takeAlike true uneven keyB (s.rest.length + 1) [a] s
      let (groupB, nextB, t) ← j.takeAlike false uneven keyA (t.rest.length + 1) [b] t
      if j.paired then
        for x in groupA do
          for y in groupB do j.put (some x) (some y)
      run j fuel uneven nextA nextB s t
  | _ + 1, uneven, a, b, s, t => do
    let looks := !j.lax && !(s.wrong && t.wrong)
    let mut s := s
    let mut t := t
    let mut uneven := uneven
    if a.isSome && (j.alone.1 || looks) then
      if j.alone.1 then j.put a none
      uneven := uneven || b.isSome
      s ← j.takeRest true uneven j.alone.1 (s.rest.length + 1) s
    if b.isSome && (j.alone.2 || looks) then
      if j.alone.2 then j.put none b
      uneven := uneven || a.isSome
      t ← j.takeRest false uneven j.alone.2 (t.rest.length + 1) t
    return !(s.wrong || t.wrong)

/-- The number of a field. -/
def fieldNumber (text : String) : Tool Nat := do
  match text.toNat? with
  | some (n + 1) => return n
  | _ => giveUp 1 ("invalid field number: " ++ quoted text)

/-- The fields that a text names. -/
def formOf (text : String) : Tool (List JoinField) := do
  let isGap (c : Char) : Bool := c == ',' || c == ' ' || c == '\t'
  let cs := text.toList.map fun c => if isGap c then ',' else c
  let (first, more) := Text.cutBetween ',' cs
  (first :: more).mapM fun word => do
    match word with
    | ['0'] => return .common
    | '0' :: _ => giveUp 1 ("invalid field specifier: " ++ quoted (.ofList word))
    | '1' :: '.' :: n => return .of 1 (← fieldNumber (.ofList n))
    | '2' :: '.' :: n => return .of 2 (← fieldNumber (.ofList n))
    | '1' :: _ | '2' :: _ => giveUp 1 ("invalid field specifier: " ++ quoted (.ofList word))
    | _ => giveUp 1 ("invalid file number in field spec: " ++ quoted (.ofList word))

end LineJoining

/-- The number of an input. -/
def inputNumber (text : String) : Tool Nat := do
  match text with
  | "1" => return 1
  | "2" => return 2
  | _ => giveUp 1 ("invalid field number: " ++ quoted text)

open LineJoining in
def join (args : List String) : Tool Nat := do
  let (chosen, operands) ← ({
    letters := "a:e:i1:2:j:o:t:v:z"
    words := [("ignore-case", "i"), ("check-order", "check"), ("nocheck-order", "nocheck"),
      ("zero-terminated", "z"), ("header", "header")] } : Choices).given args
  let given := chosen.reverse
  let mut alone := (false, false)
  let mut paired := true
  let mut form : List JoinField := []
  let mut isAuto := false
  let mut first : Option Nat := none
  let mut second : Option Nat := none
  let agreed (old : Option Nat) (n : Nat) : Tool (Option Nat) := do
    match old with
    | some m =>
      if m != n then giveUp 1 ("incompatible join fields " ++ toString m ++ ", " ++ toString n)
      return some n
    | none => return some n
  for (option, value) in given do
    match option with
    | "a" | "v" => do
      if option == "v" then paired := false
      if (← inputNumber value) = 1 then alone := (true, alone.2) else alone := (alone.1, true)
    | "1" => first ← agreed first (← fieldNumber value)
    | "2" => second ← agreed second (← fieldNumber value)
    | "j" => do
      let n ← fieldNumber value
      first ← agreed first n
      second ← agreed second n
    | "o" => if value = "auto" then isAuto := true else form := form ++ (← formOf value)
    | "t" =>
      if 1 < value.length && value != "\\0" then
        giveUp 1 ("multi-character tab " ++ quoted value)
    | _ => pure ()
  let tab := chosen.value? "t"
  let separator : Option Char := tab.bind fun t => if t = "\\0" then some '\x00' else t.toList.head?
  let stop := if chosen.has "z" then '\x00' else '\n'
  let isField (s : String) : Bool :=
    s = "0" || s.startsWith "1." || s.startsWith "2."
  let (extraFields, operands) :=
    if 2 < operands.length && !form.isEmpty then
      (operands.filter isField, operands.filter (!isField ·))
    else ([], operands)
  for text in extraFields do form := form ++ (← formOf text)
  let (pathA, pathB) ←
    match operands with
    | [] => misused "missing operand"
    | [a] => misused ("missing operand after " ++ quoted a)
    | [a, b] => pure (a, b)
    | _ :: _ :: extra :: _ => misused ("extra operand " ++ quoted extra)
  if pathA = "-" && pathB = "-" then giveUp 1 "both files cannot be standard input"
  let lines (path : String) : Tool (List (List Char)) := do
    match ← contentOf path with
    | .text s => return (Text.cutAfter stop s.toList).map (bare stop)
    | .notOpened e | .notRead e => giveUp 1 (nameOf path ++ ": " ++ e.message)
  let j : LineJoining :=
    { separator, isWhole := tab == some "", places := (first.getD 0, second.getD 0), alone, paired
      form := if form.isEmpty then none else some form
      filler := ((chosen.value? "e").getD "").toList, ignoresCase := chosen.has "i"
      strict := chosen.last? ["check", "nocheck"] == some "check"
      lax := chosen.last? ["check", "nocheck"] == some "nocheck", stop, names := (pathA, pathB) }
  let linesA ← lines pathA
  let linesB ← lines pathB
  let (a, s) ← j.take true false { rest := linesA }
  let (b, t) ← j.take false false { rest := linesB }
  let widthOf (l : Option FieldLine) : Nat := (l.map (·.fields.length)).getD 0
  let others (file place width : Nat) : List JoinField :=
    ((List.range width).filter (· != place)).map (JoinField.of file)
  let j : LineJoining :=
    if isAuto then
      { j with form := some (JoinField.common :: others 1 j.places.1 (widthOf a) ++
          others 2 j.places.2 (widthOf b)) }
    else j
  let mut current := (a, s, b, t)
  if chosen.has "header" && (a.isSome || b.isSome) then
    j.put a b
    let (a, s) ← j.take true false { s with before := none }
    let (b, t) ← j.take false false { t with before := none }
    current := (a, s, b, t)
  let (a, s, b, t) := current
  let fine ← j.run (linesA.length + linesB.length + 2) false a b s t
  if !fine then giveUp 1 "input is not in sorted order"
  return 0

end Ensemble.Utility
