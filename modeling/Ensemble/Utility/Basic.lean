import Ensemble.Machine.Program

/-!
# Ensemble.Utility.Basic

What all **utilities** share. A utility is a program that takes arguments, reads, writes, and ends
with a status. What it writes is collected in blocks and passed on when a block is full, before it
complains about something, and at its end. It complains under the name by which it was started.
-/

namespace Ensemble.Utility

/-- What a utility keeps while it runs. -/
structure Desk where
  /-- The name by which it was started. -/
  name : String
  bindings : List String := []
  launch : Launch := fun _ _ _ => return .notFound
  /-- The status if output is lost, or if an option is misused. -/
  failure : Nat := 1
  /-- What is told after a misuse, given the name. -/
  hint : String → String := fun name => "Try '" ++ name ++ " --help' for more information.\n"
  /-- What has been written but is not passed on yet, the last first, and how long it is. -/
  pieces : List String := []
  size : Nat := 0

/-- What a utility does. -/
abbrev Tool (α : Type) := StateT Desk Doing α

/-- Ask the machine. -/
def ask (c : Call) : Tool c.Reply :=
  StateT.lift (Doing.ask c)

/-- End at once; what is not passed on is lost. -/
def stop (status : Nat) : Tool α :=
  StateT.lift (Doing.finish (.exited (status % 256)))

/-- Write a text to a descriptor, piece by piece; the answer is what went wrong. -/
def writeTo (fd : Nat) : Nat → String → Tool (Option MachineFault)
  | 0, _ => return none
  | fuel + 1, text => do
    if text = "" then return none
    match ← ask (.write fd text) with
    | .error e => return some e
    | .ok n => writeTo fd fuel (if n = text.length then "" else .ofList (text.toList.drop n))

/-- Write a text to standard error. -/
def sayError (text : String) : Tool Unit := do
  let _ ← writeTo 2 (text.length + 1) text

/-- Pass a text on to standard output. -/
def passOn (text : String) : Tool Unit := do
  match ← writeTo 1 (text.length + 1) text with
  | none => pure ()
  | some e => do
    let d ← get
    sayError (d.name ++ ": write error: " ++ e.message ++ "\n")
    stop d.failure

/-- Pass on what has been written. -/
def flush : Tool Unit := do
  let d ← get
  if d.size != 0 then
    set { d with pieces := [], size := 0 }
    passOn (String.join d.pieces.reverse)

/-- The size of a block of output. -/
def blockSize : Nat := 4096

/-- Write a text to standard output. -/
def say (text : String) : Tool Unit := do
  let d ← get
  let size := d.size + text.length
  if size < blockSize then set { d with pieces := text :: d.pieces, size }
  else do
    let cs := (String.join (text :: d.pieces).reverse).toList
    let whole := size - size % blockSize
    let rest := String.ofList (cs.drop whole)
    set { d with pieces := if rest = "" then [] else [rest], size := size % blockSize }
    let first := if d.size = 0 then whole else blockSize
    passOn (.ofList (cs.take first))
    passOn (.ofList ((cs.take whole).drop first))

/-- Write a line to standard output. -/
def sayLine (line : String) : Tool Unit :=
  say (line ++ "\n")

/-- End, after what has been written is passed on. -/
def quit (status : Nat) : Tool α := do
  flush
  stop status

/-- Complain about something. -/
def complain (told : String) : Tool Unit := do
  flush
  sayError ((← get).name ++ ": " ++ told ++ "\n")

/-- Complain about something because of a fault. -/
def complainOf (told : String) (e : MachineFault) : Tool Unit :=
  complain (told ++ ": " ++ e.message)

/-- Complain and end. -/
def giveUp (status : Nat) (told : String) : Tool α := do
  complain told
  quit status

/-- Tell how to learn more, and end. -/
def misuse : Tool α := do
  flush
  let d ← get
  sayError (d.hint d.name)
  stop d.failure

/-- Complain about how the utility is used, and end. -/
def misused (told : String) : Tool α := do
  complain told
  misuse

/-- Do something with each of these; the status of the worst. -/
def forEach (xs : List α) (act : α → Tool Nat) : Tool Nat := do
  let mut status := 0
  for x in xs do
    ask .tick
    status := max status (← act x)
  return status

/-- A binding, cut into its name and its value. -/
def cutBinding (b : String) : String × String :=
  match Text.splitFirst '=' b.toList with
  | some (name, value) => (.ofList name, .ofList value)
  | none => (b, "")

/-- The value of a variable of the environment. -/
def bindingOf? (name : String) : Tool (Option String) := do
  return ((← get).bindings.map cutBinding).lookup name

/-- The program that a utility is, given how it is to be started and what it does. -/
def toProgram (desk : Desk) (act : List String → Tool Nat) : Program := fun launch args bindings => do
  let run : Tool Nat := do
    let status ← act (args.drop 1)
    flush
    return status
  return (← run.run { desk with name := args.headD desk.name, bindings, launch }).1

end Ensemble.Utility
