import Ensemble.Utility.Editing.Reader
import Ensemble.Utility.Editing.Work

/-!
# Ensemble.Utility.Editing.Run

**Applying scripts** to lines: all steps of a script are taken for one line after the other. A range
begins with a line that its first address asks for. If its end is the number of a line that has been
reached, it is that one line; otherwise it goes on up to its end, which is looked for from the next
line on.
-/

namespace Ensemble.Utility.Editing

/-- Complain about the script while it is applied. -/
def fail (f : ScriptFault) : Editing α := do
  tellAndQuit 1 ((← get).script.finish.told ++ f.message)

/-- The pattern that a step asks for: its own, or the one that was used last. -/
def patternFor (p : Option Pattern) : Editing Pattern := do
  match p, (← get).pattern with
  | some p, _ => do
    modify fun w => { w with pattern := some p }
    return p
  | none, some p => return p
  | none, none => fail .noPattern

/-- Do patterns know of lines inside of the line? -/
def knowsLines : Editing Bool := do
  return (← get).manner.stop == '\n'

/-! ### Addresses -/

/-- Does an address ask for the line? -/
def fitsAddress (a : Address) : Editing Bool := do
  match a with
  | .line n => return (← get).number = n
  | .every first step =>
    let n := (← get).number
    return decide (first ≤ n) && (n - first) % step = 0
  | .last => return !(← hasMore)
  | .fits p => do
    let p ← patternFor p
    return p.isFoundIn (← knowsLines) (← get).line.text

/-- Note how far the range of a step has come. -/
def setRange (place : Nat) (r : Range) : Editing Unit :=
  modify fun w => { w with ranges := (place, r) :: w.ranges.filter (·.1 != place) }

/-- The range of a step. -/
def rangeAt (place : Nat) : Editing Range := do
  return ((← get).ranges.lookup place).getD .waiting

/-- Is the line in a range? -/
def fitsRange (place : Nat) (first : Address) (bound : Bound) : Editing Bool := do
  let n := (← get).number
  let begin : Editing Bool := do
    if !(← fitsAddress first) then return false
    let finish := match bound with
      | .address (.line m) => some m
      | .address _ => none
      | .further m => some (n + m)
      | .multiple m => some (if m = 0 then n else (n / m + 1) * m)
    match finish with
    | some m =>
      if m ≤ n then
        match first with
        | .line _ => setRange place .over
        | _ => pure ()
      else setRange place (.going finish)
    | none => setRange place (.going none)
    return true
  match ← rangeAt place with
  | .going (some m) => do
    if m ≤ n then setRange place .over
    return decide (n ≤ m)
  | .going none => do
    match bound with
    | .address a => if ← fitsAddress a then setRange place .over
    | _ => pure ()
    return true
  | .over =>
    match first with
    | .line _ => return false
    | _ => begin
  | .waiting => begin

/-- Does a selector ask for the line? -/
def selects (place : Nat) (s : Selector) : Editing Bool :=
  match s with
  | .all => return true
  | .single a => fitsAddress a
  | .range first bound => fitsRange place first bound

/-! ### Actions -/

/-- What is done behind a step. -/
inductive Behind
  | goOn
  | goTo (place : Nat)
  /-- Take the next line, after this one is printed or without that. -/
  | nextLine
  | quit (status : Nat)

/-- Print the line, if lines are printed by themselves. -/
def printBySelf : Editing Unit := do
  let w ← get
  if !w.manner.silent then putLine .main w.line

/-- The output of a command in the place of the line. -/
def runLine : Editing Unit := do
  let w ← get
  let out := (← outputOf (.ofList w.line.text.toList)).toList.toArray
  let text := if out.back? == some w.manner.stop then out.pop else out
  modify fun w => { w with line := { w.line with text } }

/-- Replace matches in the line. -/
def applySubstitution (s : Substitution) : Editing Unit := do
  let p ← patternFor s.pattern
  if s.pattern.isNone && !p.replaced && p.groups < s.greatest then fail (.reference s.greatest)
  match s.replace? p (← knowsLines) (← get).line.text with
  | none => pure ()
  | some text => do
    modify fun w => { w with line := { w.line with text }, replaced := true }
    if s.runs then
      if s.prints && s.printsFirst then putLine .main (← get).line
      runLine
    if s.prints && !(s.runs && s.printsFirst) then putLine .main (← get).line
    match s.target with
    | some t => putLine t (← get).line
    | none => pure ()

/-- The next line of a file that is read by lines is written when the line is done. -/
def queueLine (name : String) : Editing Unit := do
  match (← get).sources.lookup name with
  | none => pure ()
  | some feed => do
    let (line, feed) ← takeLine name readLimit [] feed
    modify fun w =>
      { w with
        sources := w.sources.map fun (n, f) => if n = name then (n, feed) else (n, f)
        queue := match line with
          | some cs => .text (.ofList cs) :: w.queue
          | none => w.queue }

/-- The first line of the line. -/
def firstLine : Editing Line := do
  let w ← get
  match w.line.first? w.manner.stop with
  | some text => return ⟨text, true⟩
  | none => return w.line

/-- Take a step's action. -/
def act (place : Nat) (a : Action) : Editing Behind := do
  let w ← get
  match a with
  | .block => return .goOn
  | .jump label => do
    ask .tick
    return .goTo (w.script.labelled label)
  | .jumpIf replaced label => do
    ask .tick
    if w.replaced then set { w with replaced := false }
    return if w.replaced = replaced then .goTo (w.script.labelled label) else .goOn
  | .append text => do
    set { w with queue := .text (.ofList text) :: w.queue }
    return .goOn
  | .insert text => do
    put .main (.ofList text)
    return .goOn
  | .change text => do
    match ← rangeAt place with
    | .going _ => pure ()
    | _ => put .main (.ofList text)
    return .nextLine
  | .delete => return .nextLine
  | .deleteFirst =>
    match w.line.first? w.manner.stop with
    | none => return .nextLine
    | some text => do
      ask .tick
      let rest := w.line.text.extract (text.size + 1) w.line.text.size
      set { w with line := { w.line with text := rest } }
      return .goTo 0
  | .run [] => do
    runLine
    return .goOn
  | .run command => do
    put .main (← outputOf (.ofList command))
    return .goOn
  | .name => do
    put .main (w.name ++ "\n")
    return .goOn
  | .number => do
    put .main (toString w.number ++ "\n")
    return .goOn
  | .get => do
    set { w with line := w.held }
    return .goOn
  | .getMore => do
    set { w with line := w.line.join w.manner.stop w.held }
    return .goOn
  | .hold => do
    set { w with held := w.line }
    return .goOn
  | .holdMore => do
    set { w with held := w.held.join w.manner.stop w.line }
    return .goOn
  | .exchange => do
    set { w with line := w.held, held := w.line }
    return .goOn
  | .list width => do
    put .main (shown (width.getD w.manner.width) w.line.text ++ w.manner.stop.toString)
    return .goOn
  | .next => do
    printBySelf
    if !(← hasMore) then return .nextLine
    return if ← readLine false then .goOn else .nextLine
  | .nextMore => do
    if !(← hasMore) then
      printBySelf
      return .nextLine
    return if ← readLine true then .goOn else .nextLine
  | .print => do
    putLine .main w.line
    return .goOn
  | .printFirst => do
    putLine .main (← firstLine)
    return .goOn
  | .quit status silent => do
    if !silent then
      printBySelf
      writeQueue
    return .quit status
  | .readFile name => do
    set { w with queue := .file name :: w.queue }
    return .goOn
  | .readLine name => do
    queueLine name
    return .goOn
  | .write t => do
    putLine t w.line
    return .goOn
  | .writeFirst t => do
    putLine t (← firstLine)
    return .goOn
  | .substitute s => do
    applySubstitution s
    return .goOn
  | .replace pairs => do
    set { w with line := { w.line with text := w.line.text.map fun c => (pairs.lookup c).getD c } }
    return .goOn
  | .clear => do
    set { w with line := { w.line with text := #[] } }
    return .goOn
  | .unable letter => tellAndQuit 4 ("INTERNAL ERROR: Bad cmd " ++ letter.toString)

/-- The number of steps after which nothing is done any more. -/
def stepLimit : Nat := 1000000000000

/-- Take the steps for a line; the status is there if nothing is done any more. -/
def steps : Nat → Nat → Editing (Option Nat)
  | 0, _ => return none
  | fuel + 1, place => do
    let w ← get
    match w.script.steps[place]? with
    | none => do
      printBySelf
      return none
    | some s => do
      if (← selects place s.selector) != s.inverted then
        match ← act place s.action with
        | .goOn => steps fuel (place + 1)
        | .goTo n => steps fuel n
        | .nextLine => return none
        | .quit status => return some status
      else
        match s.action with
        | .block => steps fuel (w.script.behindBlock place)
        | _ => steps fuel (place + 1)

/-- Take one line after the other. -/
def lines : Nat → Editing Nat
  | 0 => return 0
  | fuel + 1 => do
    if ← readLine false then
      match ← steps stepLimit 0 with
      | some status => return status
      | none => lines fuel
    else return 0

/-- Apply a script to files. -/
def run : Editing Nat := do
  let w ← get
  set { w with ranges := firstRanges w.script }
  let status ← lines stepLimit
  closeFile
  let w ← get
  for (_, fd) in w.targets do
    let _ ← ask (.close fd)
  return if w.failed then 2 else status

end Ensemble.Utility.Editing
