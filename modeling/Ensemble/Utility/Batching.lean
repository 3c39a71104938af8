import Ensemble.Utility.Starting
import Ensemble.Utility.Options

/-!
# Ensemble.Utility.Batching

**Starting programs with arguments that are read**: `xargs`. An input is cut into arguments, by blanks and
quotes or at a character, and a program is started for as many of them as a call may have.
-/

namespace Ensemble.Utility

/-- What comes of an input: an argument, or the end of a line. -/
inductive Batched
  | argument (text : String)
  | line
deriving DecidableEq, Repr

/-- How an input is put into calls. -/
structure Batching where
  command : List String
  /-- How many arguments, lines and characters a call has at most. -/
  arguments : Option Nat := none
  lines : Option Nat := none
  size : Nat := 131072
  /-- What a line takes the place of in the command, if each line has a call of its own. -/
  mark : Option String := none
  /-- The argument at which the input ends. -/
  ending : Option String := none
  separator : Option Char := none
  /-- Is nothing started without arguments? -/
  onlyFilled : Bool := false
  told : Bool := false
  /-- How many programs run at the same time, without bound if it is 0. -/
  together : Nat := 1
  /-- Do programs read what standard input is? -/
  sharesInput : Bool := false

namespace Batching

/-! ### Cutting -/

def isBlank (c : Char) : Bool :=
  c == ' ' || c == '\t'

/-- An argument that is being read: what has come of it, the last first, and whether it is open. -/
structure Reading where
  held : List Char := []
  inside : Bool := false
  quote : Option Char := none
  /-- The character before. -/
  before : Char := '\n'
  /-- What has been read, the last first. -/
  done : List Batched := []

/-- Put down an argument that has ended; is it the one at which the input ends? -/
def Reading.close (b : Batching) (r : Reading) (end' : List Batched) : Reading × Bool :=
  let text := String.ofList r.held.reverse
  if b.ending == some text then (r, true)
  else ({ r with held := [], inside := false, done := end' ++ .argument text :: r.done }, false)

/-- Cut an input at blanks, or at line feeds alone if each line has a call of its own; what is wrong with
it is told. -/
def cut (b : Batching) : Nat → Reading → List Char → List Batched × Option String
  | 0, r, _ => (r.done.reverse, none)
  | _, r, [] =>
    match r.quote with
    | some q =>
      (r.done.reverse, some ("unmatched " ++ (if q == '"' then "double" else "single") ++
        " quote; by default quotes are special to xargs unless you use the -0 option"))
    | none =>
      if r.held.isEmpty then (r.done.reverse, none) else ((r.close b []).1.done.reverse, none)
  | fuel + 1, r, c :: cs =>
    let next := { r with before := c }
    match r.quote with
    | some q =>
      if c == '\n' then cut b fuel r []
      else if c == q then cut b fuel { next with quote := none } cs
      else cut b fuel { next with held := c :: r.held } cs
    | none =>
      if !r.inside && (isBlank c || Shell.Numeral.isSpace c) then cut b fuel next cs
      else if c == '\n' then
        let marks := if isBlank r.before then [] else [Batched.line]
        if r.held.isEmpty then cut b fuel { next with inside := false, done := marks ++ r.done } cs
        else
          match next.close b marks with
          | (r, true) => (r.done.reverse, none)
          | (r, false) => cut b fuel r cs
      else if isBlank c && b.mark.isNone then
        match next.close b [] with
        | (r, true) => (r.done.reverse, none)
        | (r, false) => cut b fuel r cs
      else
        let next := { next with inside := true }
        if c == '\x5c' then
          match cs with
          | [] => cut b fuel next []
          | d :: cs => cut b fuel { next with held := d :: r.held, before := d } cs
        else if c == '\x27' || c == '"' then cut b fuel { next with quote := some c } cs
        else cut b fuel { next with held := c :: r.held } cs

/-- Cut an input at a character. -/
def cutAt (stop : Char) (text : List Char) : List Batched :=
  (Text.cutAfter stop text).flatMap fun piece => [.argument (.ofList (bare stop piece)), .line]

/-! ### Calls -/

/-- A text with another in the place of each mark. -/
def filled (mark text : List Char) : Nat → List Char → List Char
  | 0, cs => cs
  | _, [] => []
  | fuel + 1, c :: cs =>
    if mark.isPrefixOf (c :: cs) then text ++ filled mark text fuel ((c :: cs).drop mark.length)
    else c :: filled mark text fuel cs

/-- The characters that arguments take. -/
def roomOf (args : List String) : Nat :=
  args.foldl (fun n a => n + a.length + 1) 0

/-- The arguments of the calls, or what is wrong with them; `held` are those of the next call, the last
first, and `lines` is how many lines they come from. -/
def calls (b : Batching) : List String → Nat → List Batched → List (List String) × Option String
  | held, _, [] => (if held.isEmpty then [] else [b.command ++ held.reverse], none)
  | held, lines, .line :: more =>
    match b.lines with
    | some most =>
      if most ≤ lines + 1 then
        let (others, wrong) := calls b [] 0 more
        (if held.isEmpty then (others, wrong) else ((b.command ++ held.reverse) :: others, wrong))
      else calls b held (lines + 1) more
    | none => calls b held lines more
  | held, lines, .argument a :: more =>
    let before := roomOf b.command + roomOf held
    if b.size < roomOf b.command + a.length + 1 then
      (if held.isEmpty then [] else [b.command ++ held.reverse], some "argument line too long")
    else if b.size < before + a.length + 1 then
      let (others, wrong) := calls b [a] 0 more
      ((b.command ++ held.reverse) :: others, wrong)
    else
      match b.arguments with
      | some most =>
        if most ≤ held.length + 1 then
          let (others, wrong) := calls b [] 0 more
          ((b.command ++ (a :: held).reverse) :: others, wrong)
        else calls b (a :: held) lines more
      | none => calls b (a :: held) lines more

/-- The arguments of the calls that a cut input comes to. -/
def allCalls (b : Batching) (input : List Batched) : List (List String) × Option String :=
  match b.mark with
  | some mark =>
    let texts := input.filterMap fun
      | .argument a => some a
      | .line => none
    (texts.map fun t => b.command.map fun w =>
      if mark = "" then w
      else .ofList (filled mark.toList t.toList (w.length + 1) w.toList), none)
  | none =>
    let (all, wrong) := b.calls [] 0 input
    (if all.isEmpty && wrong.isNone && !b.onlyFilled then [b.command] else all, wrong)

/-! ### Running -/

/-- What a program that has ended comes to: the status so far, and is it the last? -/
def ended (name : String) (status : Nat) (how : Ending) : Tool Nat := do
  match how with
  | .exited 0 => return status
  | .exited 255 => do
    complain (name ++ ": exited with status 255; aborting")
    stop 124
  | .exited _ => return max status 123
  | .killed signal => do
    complain (name ++ ": terminated by signal " ++ toString signal)
    stop 125

/-- Wait for a program to end. -/
def awaited (name : String) (status : Nat) : Tool Nat := do
  match ← ask (.wait none true false) with
  | .ended _ how => ended name status how
  | _ => return status

/-- Start a program; the answer is why that was not possible. -/
def started (b : Batching) (args : List String) : Tool (Option MachineFault) := do
  let (source, target) ← ask .pipe
  let d ← get
  let act : Tool Nat := do
    let _ ← ask (.close source)
    let kept ← ask (.duplicateAbove target 10)
    let _ ← ask (.close target)
    if !b.sharesInput then
      match ← ask (.openFile "/dev/null" { reads := true }) with
      | .ok fd =>
        let _ ← ask (.duplicate fd 0)
        if fd != 0 then
          let _ ← ask (.close fd)
      | .error _ => pure ()
    let e ← goOn args d.bindings
    sayError (d.name ++ ": " ++ args.headD "" ++ ": " ++ e.message ++ "\n")
    match kept with
    | .ok fd =>
      let _ ← ask (.write fd (if startStatus e = 127 then "n" else "p"))
    | .error _ => pure ()
    return startStatus e
  flush
  let child ← StateT.lift (Doing.fork (Doing.toProcess do
    let (status, _) ← act.run { d with pieces := [], size := 0 }
    return status % 256))
  let _ ← ask (.close target)
  let told ← ask (.read source 1)
  let _ ← ask (.close source)
  match told with
  | .ok "n" => do
    let _ ← ask (.wait (some child) true false)
    return some .notFound
  | .ok "p" => do
    let _ ← ask (.wait (some child) true false)
    return some .notPermitted
  | _ => return none

/-- Run the calls, so many at the same time; the answer is the status. -/
def run (b : Batching) (running status : Nat) : List (List String) → Tool Nat
  | [] => do
    let name := b.command.headD ""
    let mut status := status
    for _ in List.range running do status ← awaited name status
    return status
  | args :: more => do
    let name := b.command.headD ""
    let isFull := b.together != 0 && b.together ≤ running
    let status ← if isFull then awaited name status else pure status
    let running := if isFull then running - 1 else running
    if b.told then sayError (" ".intercalate (args.map nameText) ++ "\n")
    match ← b.started args with
    | some e => stop (startStatus e)
    | none => run b (running + 1) status more

end Batching

/-- A number that an option is given, not below a bound. -/
def batchNumber (option text : String) (least : Nat) (isFatal : Bool) : Tool Nat := do
  let (negative, digits) := match text.toList with
    | '-' :: ds => (true, ds)
    | '+' :: ds => (false, ds)
    | ds => (false, ds)
  if digits.isEmpty || !digits.all Char.isDigit then
    complain ("invalid number \"" ++ text ++ "\" for -" ++ option ++ " option")
    misuse
  let n := (Shell.Numeral.digits 10 digits).1
  if negative && n != 0 || n < least then
    complain ("value " ++ text ++ " for -" ++ option ++ " option should be >= " ++ toString least)
    if isFatal then misuse
  return if negative then 0 else n

/-- The character at which an input is cut. -/
def batchStop (text : String) : Tool Char := do
  let (cs, _) := Shell.Format.unescape (text.length + 1) text.toList
  let hex : Option Char :=
    match text.toList with
    | '\x5c' :: 'x' :: ds =>
      let (n, rest) := Shell.Numeral.digits 16 ds
      if ds.isEmpty || !rest.isEmpty then none else some (Char.ofNat n)
    | _ => none
  match hex, text.toList, cs with
  | some c, _, _ => return c
  | none, [c], _ => return c
  | none, '\x5c' :: _, [c] => return c
  | _, _, _ =>
    giveUp 1 ("Invalid input delimiter specification " ++ text ++
      ": the delimiter must be either a single character or an escape sequence starting with \\.")

open Batching in
def xargs (args : List String) : Tool Nat := do
  let (chosen, operands) ← ({
    letters := "0a:E:e::i::I:l::L:n:prs:txP:d:o", leading := true
    words := [("null", "0"), ("arg-file:", "a"), ("delimiter:", "d"), ("eof::", "e"),
      ("replace::", "i"), ("max-lines::", "l"), ("max-args:", "n"), ("open-tty", "o"),
      ("interactive", "p"), ("no-run-if-empty", "r"), ("max-chars:", "s"), ("verbose", "t"),
      ("show-limits", "limits"), ("exit", "x"), ("max-procs:", "P"), ("process-slot-var:", "slot")] } :
    Choices).given args
  let mut b : Batching := { command := if operands.isEmpty then ["echo"] else operands }
  let exclusive (old new : String) : Tool Unit :=
    complain ("warning: options --" ++ old ++ " and " ++ new ++
      " are mutually exclusive, ignoring previous --" ++ old ++ " value")
  let mut input := "-"
  for (option, value) in chosen.reverse do
    match option with
    | "0" => b := { b with separator := some '\x00' }
    | "d" => b := { b with separator := some (← batchStop value) }
    | "a" => input := value
    | "E" | "e" => b := { b with ending := if value = "" then none else some value }
    | "i" | "I" => do
      if b.lines.isSome then exclusive "max-lines" "--replace/-I/-i"
      if b.arguments.isSome then exclusive "max-args" "--replace/-I/-i"
      let mark := if option == "i" && value = "" then "\x7b\x7d" else value
      b := { b with mark := some mark, lines := none, arguments := none }
    | "l" | "L" => do
      let n ← if value = "" then pure 1 else batchNumber option value 1 true
      let new := if option == "l" then "--max-lines/-l" else "-L"
      if b.arguments.isSome then exclusive "max-args" new
      if b.mark.isSome then exclusive "replace" new
      b := { b with lines := some n, arguments := none, mark := none }
    | "n" => do
      let n ← batchNumber "n" value 1 true
      if b.lines.isSome then
        exclusive "max-lines" "--max-args/-n"
        b := { b with lines := none }
      if n = 1 && b.mark.isSome then pure ()
      else
        if b.mark.isSome then exclusive "replace" "--max-args/-n"
        b := { b with arguments := some n, mark := none }
    | "r" => b := { b with onlyFilled := true }
    | "s" => do
      let n ← batchNumber "s" value 1 false
      if 2092986 < n then complain ("value " ++ value ++ " for -s option should be <= 2092986")
      b := { b with size := min n 2092986 }
    | "t" => b := { b with told := true }
    | "P" => b := { b with together := ← batchNumber "P" value 0 true }
    | _ => pure ()
  if b.size < roomOf b.command then giveUp 1 "cannot fit single argument within argument list size limit"
  b := { b with sharesInput := input != "-" }
  let text ←
    match ← contentOf input with
    | .text s => pure s.toList
    | .notOpened e | .notRead e =>
      giveUp 1 ("Cannot open input file " ++ shellQuoted input ++ ": " ++ e.message)
  let (cutInput, wrong) :=
    match b.separator with
    | some c => (cutAt c text, none)
    | none => b.cut (text.length + 2) {} text
  let (all, wrongCall) := b.allCalls cutInput
  let all := if wrong.isSome && all == [b.command] then [] else all
  let status ← b.run 0 0 (if wrong.isSome then all.dropLast else all)
  match wrong.orElse fun _ => wrongCall with
  | some told => giveUp 1 told
  | none => return status

end Ensemble.Utility
