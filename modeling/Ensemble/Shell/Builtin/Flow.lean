import Ensemble.Shell.Builtin.Basic

/-!
# Ensemble.Shell.Builtin.Flow

Commands that tell **how a script goes on**: leaving loops, functions and the shell, the positional
parameters, and the switches.
-/

namespace Ensemble.Shell.Builtin

/-- End the shell. While something is done on a signal, the status is by default the one before. -/
def exit : Own := fun args => do
  match args with
  | [] => do
    let s ← get
    leaveShell (s.statusBefore.getD s.status)
  | a :: _ => leaveShell (← numberOf a)

/-- Leave the function, or the script that is read from a file. -/
def return' : Own := fun args => do
  match args with
  | [] => do
    modify fun s => { s with skip := some (.function false) }
    return (← get).status
  | a :: _ => do
    let n ← numberOf a
    modify fun s => { s with skip := some (.function true) }
    return n

/-- Leave loops, as many as are named and around. -/
def leaveLoops (skip : Nat → Skip) : Own := fun args => do
  let n ← match args with
    | [] => pure 1
    | a :: _ => do
      let n ← numberOf a
      if n = 0 then giveUp ("Illegal number: " ++ a)
      pure n
  modify fun s =>
    if s.loops = 0 then s else { s with skip := some (skip (min n s.loops)) }
  return 0

/-- Set the positional parameters; options are read from their beginning. -/
def setPositional (values : List String) : Act Unit :=
  modify fun s => { s with positional := values, optionIndex := 1, optionOffset := 0 }

def shift : Own := fun args => do
  let n ← match args with
    | [] => pure 1
    | a :: _ => numberOf a
  let positional := (← get).positional
  if positional.length < n then giveUp "can't shift that many"
  setPositional (positional.drop n)
  return 0

/-! ### Switches -/

/-- List all switches, as commands or as a table. -/
def listModes (asCommands : Bool) (m : Modes) : String :=
  if asCommands then
    String.join (Mode.all.map fun mode =>
      "set " ++ (if mode.get m then "-o " else "+o ") ++ mode.name ++ "\n")
  else
    "Current option settings\n" ++ String.join (Mode.all.map fun mode =>
      mode.name ++ .ofList (List.replicate (16 - mode.name.length) ' ') ++
        (if mode.get m then "on\n" else "off\n"))

/-- Variables with values, as commands could set them, in the order of their names. -/
def listVariables (lead : String) (wanted : Variable → Bool) (bindings : List (String × Variable)) :
    String :=
  let shown := (bindings.filter fun (_, v) => wanted v).mergeSort fun a b => decide (a.1 ≤ b.1)
  String.join (shown.map fun (name, v) =>
    lead ++ name ++ (match v.value with | some value => "=" ++ inQuotes value | none => "") ++ "\n")

def set' : Own := fun args => do
  if args.isEmpty then
    say (listVariables "" (·.value.isSome) (← get).bindings)
    return 0
  let found := Switches.ofWords Mode.all [] (← get).modes args
  let monitors := found.modes.monitor && !(← get).modes.monitor
  modify fun s => { s with modes := { found.modes with monitor := false } }
  match found.listing with
  | some asCommands => say (listModes asCommands (← get).modes)
  | none => pure ()
  match found.fault with
  | some fault => giveUp fault.message
  | none => pure ()
  if monitors then complainAt "can't access tty; job control turned off"
  if !found.rest.isEmpty || found.ended then setPositional found.rest
  return 0

end Ensemble.Shell.Builtin
