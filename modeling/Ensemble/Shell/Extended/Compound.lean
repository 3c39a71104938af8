import Ensemble.Shell.Extended.Simple
import Ensemble.Shell.Inside

/-!
# Ensemble.Shell.Extended.Compound

**Compound commands of the extended dialect**: loops over words and over numbers, choices, menus, conditions,
and the time that a command takes. Each is told before it is run, and has its own line. What goes wrong in an
expression fails the command, and the script goes on.
-/

/-! ### Loops

**Loops**: what is passed over is counted out one loop at a time, and a loop goes on accordingly.
-/

namespace Ensemble.Shell.Loop

/-- How a loop goes on. -/
inductive Turn
  /-- As it would have gone on. -/
  | onward
  /-- With its next round. -/
  | next
  /-- It is left. -/
  | leave
  /-- It is left, and so is the function around: with a status of its own? -/
  | return (given : Bool)
deriving DecidableEq, Repr

/-- What is passed over, one loop further out. -/
def turn : Act Turn := do
  let s ← get
  let setSkip (skip : Option Skip) : Act Unit := set { s with skip }
  match s.skip with
  | none => return .onward
  | some (.leave n) => do
    setSkip (if n ≤ 1 then none else some (.leave (n - 1)))
    return .leave
  | some (.next n) => do
    setSkip (if n ≤ 1 then none else some (.next (n - 1)))
    return if n ≤ 1 then .next else .leave
  | some (.function given) => return .return given

/-- Rounds of no loop go on beyond this. -/
def roundLimit : Nat := 1000000000000

/-- The rounds of a loop; the status is that of the last body. -/
def rounds (inner : Inner) (manner : Manner) (untilTrue : Bool) (test body : Command) :
    Nat → Nat → Act Nat
  | 0, status => return status
  | fuel + 1, status => do
    inner.run { tested := true } test
    match ← turn with
    | .next => rounds inner manner untilTrue test body fuel status
    | .leave => return status
    | .return given => do
      let s ← get
      return if given then s.status else status
    | .onward => do
      let failed := (← get).status != 0
      if failed != untilTrue then return status
      inner.run { tested := manner.tested } body
      let status := (← get).status
      match ← turn with
      | .onward | .next => rounds inner manner untilTrue test body fuel status
      | _ => return status

/-- The rounds of a loop over words. -/
def roundsOver (inner : Inner) (manner : Manner) (name : String) (body : Command) :
    List String → Nat → Act Nat
  | [], status => return status
  | word :: words, _ => do
    assign name word
    inner.run { tested := manner.tested } body
    let status := (← get).status
    match ← turn with
    | .onward | .next => roundsOver inner manner name body words status
    | _ => return status

/-- Run rounds inside of one loop more. -/
def looping (act : Act Nat) : Act Unit := do
  modify fun s => { s with loops := s.loops + 1 }
  let status ← act
  modify fun s => { s with loops := s.loops - 1, status }

end Ensemble.Shell.Loop

/-! ### Compound commands -/

namespace Ensemble.Shell.Extended

/-- Begin a compound command that is told like this. -/
def begin (inner : Inner) (line : Nat) (told : String) (ending : String := "") : Act Unit := do
  modify ({ · with line })
  traceWith (Process.scripts inner) told
  beforeCommand inner (.simple line [] [[.written (told ++ ending)]] [])

/-- Do something; if the line of the script is dropped by it, the command fails. -/
def failing (act : Act Unit) : Act Unit := do
  match ← holding act with
  | .ok () => pure ()
  | .error .dropped => setStatus 1
  | .error e => throw e

/-- Do something for a name, if a variable can have it. -/
def named (name : String) (act : Act Unit) : Act Unit := do
  if isName name.toList then act
  else
    complainAt ("\x60" ++ name ++ "': not a valid identifier")
    setStatus 1

/-! ### Loops over words -/

/-- Give the variable of a loop its next value. A variable that refers to another refers to what the value
names. -/
def assignRound (name word : String) : Act Unit := do
  match (← get).declared? name with
  | some v =>
    if v.refers then modify (·.setVariable name (some { v with value := some word }))
    else assignTo name none false word
  | none => assign name word

/-- The rounds of a loop over words. -/
def roundsOver (inner : Inner) (manner : Manner) (line : Nat) (told name : String) (body : Command) :
    List String → Nat → Act Nat
  | [], status => return status
  | word :: words, _ => do
    begin inner line told
    assignRound name word
    inner.run { tested := manner.tested } body
    let status := (← get).status
    match ← Loop.turn with
    | .onward | .next => roundsOver inner manner line told name body words status
    | _ => return status

/-- Run a loop over words. -/
def each (inner : Inner) (manner : Manner) (line : Nat) (name : String) (words : List Word)
    (body : Command) : Act Unit := do
  modify ({ · with line })
  named name do
    let texts ← Expansion.texts (Process.scripts inner) words
    let told := "for " ++ name ++ " in " ++ Listing.words words
    let loops := (← get).loops
    match ← holding (Loop.looping (roundsOver inner manner line told name body texts 0)) with
    | .ok () => pure ()
    | .error .dropped =>
      modify ({ · with loops, status := 1 })
      if ((← get).declared? ((← get).target name)).any (·.readOnly) then pure () else throw .dropped
    | .error e => throw e

/-! ### Menus -/

namespace Menu

/-- The columns of the screen. -/
def screenColumns : Nat := 80

/-- The columns up to which a tabulator leads. -/
def tabulator : Nat := 8

/-- Blanks and tabulators from one column to another. -/
def blanks : Nat → Nat → Nat → String
  | 0, _, _ => ""
  | fuel + 1, start, stop =>
    if stop ≤ start then ""
    else if start / tabulator < stop / tabulator then
      "\t" ++ blanks fuel (start + tabulator - start % tabulator) stop
    else " " ++ blanks fuel (start + 1) stop

/-- A number in so many columns. -/
def number (columns n : Nat) : String :=
  let text := toString n
  .ofList (List.replicate (columns - text.length) ' ') ++ text

/-- The quotient, made greater if something is left over. -/
def share (n parts : Nat) : Nat :=
  n / parts + (if n % parts = 0 then 0 else 1)

/-- One line of the menu: every item that is so many behind the one before. -/
def line (words : List String) (rows width indexWidth : Nat) : Nat → Nat → Nat → String
  | 0, _, _ => ""
  | fuel + 1, place, column =>
    match words[place]? with
    | none => ""
    | some word =>
      let columns := if column = 0 then (toString rows).length else indexWidth
      let text := number columns (place + 1) ++ ") " ++ word
      let more := place + rows < words.length
      if more then
        text ++ blanks (width + tabulator) (column + columns + 2 + word.length) (column + width) ++
          line words rows width indexWidth fuel (place + rows) (column + width)
      else text

/-- The items with their numbers, in columns. -/
def text (words : List String) : String :=
  let count := words.length
  let indexWidth := (toString count).length
  let width := words.foldl (fun n w => max n w.length) 0 + indexWidth + 4
  let columns := max (screenColumns / width) 1
  let rows := share count columns
  let columns := share count rows
  let rows := if rows = 1 then columns else rows
  String.join ((List.range rows).map fun row => line words rows width indexWidth (count + 1) row 0 ++ "\n")

/-- Ask until something has been chosen; none at the end of the input. -/
def choose (words : List String) : Nat → Bool → Act (Option String)
  | 0, _ => return none
  | fuel + 1, shows => do
    if shows then sayError (text words)
    sayError (((← get).value? "PS3").getD "#? ")
    let status ← speakingAs "read" (Builtin.read [])
    if status != 0 then
      say "\n"
      flush
      return none
    let reply := ((← get).value? "REPLY").getD ""
    if reply = "" then choose words fuel true
    else
      match number? reply with
      | some n => return some (if 0 < n then words.getD (n.toNat - 1) "" else "")
      | none => return some ""

/-- The rounds of a menu. -/
def rounds (inner : Inner) (manner : Manner) (line : Nat) (name : String) (words : List String)
    (body : Command) : Nat → Bool → Act Nat
  | 0, _ => return 0
  | fuel + 1, shows => do
    modify ({ · with line })
    match ← choose words Process.waitLimit shows with
    | none => return 1
    | some word => do
      assignRound name word
      inner.run { tested := manner.tested } body
      let s ← get
      match ← Loop.turn with
      | .onward | .next => rounds inner manner line name words body fuel (s.value? "REPLY" == some "")
      | _ => return s.status

end Menu

/-- Run a menu. -/
def menu (inner : Inner) (manner : Manner) (line : Nat) (name : String) (words : List Word)
    (body : Command) : Act Unit := do
  modify ({ · with line })
  named name do
    let texts ← Expansion.texts (Process.scripts inner) words
    begin inner line ("select " ++ name ++ " in " ++ Listing.words words)
    if texts.isEmpty then setStatus 0
    else Loop.looping (Menu.rounds inner manner line name texts body Loop.roundLimit true)

/-! ### Choices -/

/-- The arms from the first on that has a pattern which matches. -/
def arms (inner : Inner) (subject : List Char) :
    List (List Word × Command × ArmEnd) → Act (List (List Word × Command × ArmEnd))
  | [] => return []
  | (patterns, arm) :: rest => do
    let fold := (← get).toggles.contains "nocasematch"
    let found ← patterns.findM? fun w => do
      let pattern ← Expansion.pattern (Process.scripts inner) w
      return (Glob.ofChars true fold pattern).isMatch subject
    if found.isSome then return (patterns, arm) :: rest else arms inner subject rest

/-- Run the first of the arms, and as many behind it as its end says. -/
def runArms (inner : Inner) (manner : Manner) (subject : List Char) :
    Nat → List (List Word × Command × ArmEnd) → Act Unit
  | 0, _ | _, [] => return ()
  | fuel + 1, (_, c, stop) :: rest => do
    match c with
    | .nothing => setStatus 0
    | c => inner.run { tested := manner.tested } c
    if (← get).skip.isSome then return ()
    match stop with
    | .leave => return ()
    | .through => runArms inner manner subject fuel rest
    | .onward => do
      let rest ← arms inner subject rest
      runArms inner manner subject fuel rest

/-- Run the arm with a pattern that matches a word. -/
def select (inner : Inner) (manner : Manner) (line : Nat) (subject : Word)
    (all : List (List Word × Command × ArmEnd)) : Act Unit := do
  begin inner line ("case " ++ Word.source subject ++ " in") " "
  let text ← Expansion.text (Process.scripts inner) { home := true } subject
  let found ← arms inner text.toList all
  setStatus 0
  runArms inner manner text.toList (all.length + 1) found

/-! ### Conditions -/

/-- Run a condition. -/
def condition (inner : Inner) (line : Nat) (test : Test) : Act Unit := do
  modify ({ · with line })
  beforeCommand inner (.condition line test)
  let run := Process.scripts inner
  let speaker := (← get).speaker
  failing do
    modify ({ · with speaker := none })
    settingRight (modify ({ · with speaker })) do
      match ← holdsTest run (traceWith run) test with
      | some true => setStatus 0
      | some false => setStatus 1
      | none => setStatus 2

/-- The value of an expression that stands between double parentheses. It is told. -/
def expressionValue (inner : Inner) (w : Word) : Act Int64 := do
  let run := Process.scripts inner
  let text ← Expansion.text run { quoted := true } w
  traceWith run ("(( " ++ text ++ " ))")
  evaluate "((: " text

/-- Run an arithmetic expression: it succeeds if its value is not zero. -/
def arithmetic (inner : Inner) (line : Nat) (w : Word) : Act Unit := do
  modify ({ · with line })
  beforeCommand inner (.arithmetic line w)
  failing do
    let n ← expressionValue inner w
    setStatus (if n = 0 then 1 else 0)

/-! ### Loops over numbers -/

/-- The expression that stands for one that is not there. -/
def orOne (w : Word) : Word :=
  match Word.plainText? w with
  | some cs => if cs.all fun c => c = ' ' || c = '\t' || c = '\n' then [.plain ['1']] else w
  | none => w

/-- The value of an expression of a loop; none if it has a fault. -/
def loopValue (inner : Inner) (line : Nat) (w : Word) : Act (Option Int64) := do
  let before := (← get).line
  modify ({ · with line })
  beforeCommand inner (.arithmetic line w)
  match ← holding (expressionValue inner (orOne w)) with
  | .ok n => do
    modify ({ · with line := before })
    return some n
  | .error .dropped => return none
  | .error e => throw e

/-- The rounds of a loop over numbers. -/
def roundsWhile (inner : Inner) (manner : Manner) (line : Nat) (test step : Word) (body : Command) :
    Nat → Nat → Act Nat
  | 0, status => return status
  | fuel + 1, status => do
    match ← loopValue inner line test with
    | none => return 1
    | some n =>
      if n = 0 then return status
      inner.run { tested := manner.tested } body
      let status := (← get).status
      match ← Loop.turn with
      | .onward | .next =>
        match ← loopValue inner line step with
        | none => return 1
        | some _ => roundsWhile inner manner line test step body fuel status
      | _ => return status

/-- Run a loop over numbers. -/
def counted (inner : Inner) (manner : Manner) (line : Nat) (start test step : Word) (body : Command) :
    Act Unit := do
  match ← loopValue inner line start with
  | none => setStatus 1
  | some _ => Loop.looping (roundsWhile inner manner line test step body Loop.roundLimit 0)

/-! ### Time -/

namespace Time

/-- A number with so many digits. -/
def digits (count n : Nat) : String :=
  let text := toString n
  .ofList (List.replicate (count - text.length) '0') ++ text

/-- Milliseconds in seconds, with so many places, and in minutes before them if that is wanted. -/
def seconds (places : Nat) (minutes : Bool) (n : Nat) : String :=
  let whole := if minutes then n / 1000 % 60 else n / 1000
  let part := if places = 0 then "" else "." ++ .ofList ((digits 3 (n % 1000)).toList.take places)
  (if minutes then toString (n / 60000) ++ "m" else "") ++ toString whole ++ part ++
    if minutes then "s" else ""

/-- A form of telling times, with the real time in milliseconds: behind a percent sign stand places, and
the letter of a time. -/
def expand (elapsed : Nat) : Nat → List Char → List Char
  | 0, _ | _, [] => []
  | fuel + 1, '%' :: '%' :: cs => '%' :: expand elapsed fuel cs
  | fuel + 1, '%' :: cs =>
    let (places, cs) :=
      match cs with
      | c :: rest => if c.isDigit then (min (c.toNat - '0'.toNat) 3, rest) else (3, cs)
      | [] => (3, [])
    let (minutes, cs) := match cs with | 'l' :: rest => (true, rest) | _ => (false, cs)
    match cs with
    | 'R' :: rest => (seconds places minutes elapsed).toList ++ expand elapsed fuel rest
    | 'U' :: rest | 'S' :: rest => (seconds places minutes 0).toList ++ expand elapsed fuel rest
    | 'P' :: rest => "0.00".toList ++ expand elapsed fuel rest
    | c :: rest => '%' :: c :: expand elapsed fuel rest
    | [] => ['%']
  | fuel + 1, c :: cs => c :: expand elapsed fuel cs

end Time

/-- The form of telling times if nothing else is said. -/
def timeForm : String :=
  "\nreal\t%3lR\nuser\t%3lU\nsys\t%3lS"

/-- The form of telling times plainly. -/
def plainTimeForm : String :=
  "real %2R\nuser %2U\nsys %2S"

/-- Run a command, and tell how long that has taken. -/
def timed (inner : Inner) (manner : Manner) (plain : Bool) (c : Command) : Act Unit := do
  let start ← ask .clock
  inner.run { tested := manner.tested } c
  let elapsed := ((← ask .clock) - start).toNat / 1000
  let s ← get
  let form := if plain then plainTimeForm else (s.value? "TIMEFORMAT").getD timeForm
  if form != "" then
    complain (.ofList (Time.expand elapsed (form.length + 1) form.toList))

end Ensemble.Shell.Extended
