import Ensemble.Shell.Builtin.Flow
import Ensemble.Shell.Extended.Builtin.Variables

/-!
# Ensemble.Shell.Extended.Builtin.Flow

Commands that tell **how a script goes on**: leaving loops, functions and the shell, the positional
parameters, and the switches.
-/

namespace Ensemble.Shell.Extended.Builtin

/-- Complain about arguments that are too many, and drop the line. -/
def tooMany : Act α :=
  drop "too many arguments"

/-- Without the word that ends options. -/
def plainArguments (args : List String) : List String :=
  if args.head? == some "--" then args.drop 1 else args

/-- The octet that a status is. -/
def octet (n : Int) : Nat :=
  (n % 256).toNat

def exit : Own := fun args => do
  match plainArguments args with
  | [] => do
    let s ← get
    leaveShell (s.statusBefore.getD s.status)
  | a :: more => do
    match number? a with
    | none => do
      complainAt (a ++ ": numeric argument required")
      leaveShell 2
    | some n => do
      if !more.isEmpty then tooMany
      leaveShell (octet n)

def return' : Own := fun args => do
  let s ← get
  if s.called.isEmpty then
    complainAt "can only \x60return' from a function or sourced script"
    return 2
  let leave (given : Bool) : Act Unit := modify fun s => { s with skip := some (.function given) }
  match plainArguments args with
  | [] => do
    leave false
    return s.status
  | a :: more => do
    match number? a with
    | none => do
      complainAt (a ++ ": numeric argument required")
      leave true
      return 2
    | some n => do
      if !more.isEmpty then tooMany
      leave true
      return octet n

/-- Leave loops, as many as are named and around. -/
def leaveLoops (skip : Nat → Skip) : Own := fun args => do
  let s ← get
  if s.loops = 0 then
    complainAt "only meaningful in a \x60for', \x60while', or \x60until' loop"
    return 0
  match plainArguments args with
  | [] => do
    set { s with skip := some (skip 1) }
    return 0
  | a :: _ => do
    match number? a with
    | none => do
      complainAt (a ++ ": numeric argument required")
      leaveShell 128
    | some n => do
      if n < 1 then
        complainAt (a ++ ": loop count out of range")
        set { s with skip := some (.leave s.loops) }
        return 1
      set { s with skip := some (skip (min n.toNat s.loops)) }
      return 0

def shift : Own := fun args => do
  let n ←
    match plainArguments args with
    | [] => pure 1
    | a :: _ =>
      match number? a with
      | none => do
        complainAt (a ++ ": numeric argument required")
        fail 1
      | some n => do
        if n < 0 then
          complainAt (a ++ ": shift count out of range")
          fail 1
        pure n.toNat
  let positional := (← get).positional
  if positional.length < n then
    if (← get).toggles.contains "shift_verbose" then
      complainAt (toString n ++ ": shift count out of range")
    return 1
  modify ({ · with positional := positional.drop n })
  return 0

/-! ### Switches -/

/-- A name and whether it is on, in a table. -/
def switchLine (name : String) (on : Bool) : String :=
  name ++ .ofList (List.replicate (15 - name.length) ' ') ++ "\t" ++ (if on then "on\n" else "off\n")

def listSwitches (asCommands : Bool) (m : Modes) : String :=
  String.join (Mode.extended.map fun mode =>
    let on := mode.get m
    if asCommands then "set " ++ (if on then "-o " else "+o ") ++ mode.name ++ "\n"
    else switchLine mode.name on)

def set' : Own := fun args => do
  if args.isEmpty then
    listAll
    return 0
  let found := Switches.ofWords Mode.extended [] (← get).modes args
  modify fun s => { s with modes := found.modes }
  match found.listing with
  | some asCommands => say (listSwitches asCommands (← get).modes)
  | none => pure ()
  match found.fault with
  | some (.name name) => do
    complainAt (name ++ ": invalid option name")
    return 2
  | some (.letter on c) => misuse ((if on then "-" else "+") ++ c.toString ++ ": invalid option")
  | none => pure ()
  if !found.rest.isEmpty || found.ended then modify ({ · with positional := found.rest })
  return 0

/-- The further switches, and those of them that are on at first. -/
def toggleNames : List (String × Bool) :=
  [("autocd", false), ("assoc_expand_once", false), ("cdable_vars", false), ("cdspell", false),
    ("checkhash", false), ("checkjobs", false), ("checkwinsize", true), ("cmdhist", true),
    ("compat31", false), ("compat32", false), ("compat40", false), ("compat41", false), ("compat42", false),
    ("compat43", false), ("compat44", false), ("complete_fullquote", true), ("direxpand", false),
    ("dirspell", false), ("dotglob", false), ("execfail", false), ("expand_aliases", false),
    ("extdebug", false), ("extglob", false), ("extquote", true), ("failglob", false),
    ("force_fignore", true), ("globasciiranges", true), ("globskipdots", true), ("globstar", false),
    ("gnu_errfmt", false), ("histappend", false), ("histreedit", false), ("histverify", false),
    ("hostcomplete", true), ("huponexit", false), ("inherit_errexit", false),
    ("interactive_comments", true), ("lastpipe", false), ("lithist", false), ("localvar_inherit", false),
    ("localvar_unset", false), ("login_shell", false), ("mailwarn", false),
    ("no_empty_cmd_completion", false), ("nocaseglob", false), ("nocasematch", false),
    ("noexpand_translation", false), ("nullglob", false), ("patsub_replacement", true), ("progcomp", true),
    ("progcomp_alias", false), ("promptvars", true), ("restricted_shell", false), ("shift_verbose", false),
    ("sourcepath", true), ("varredir_close", false), ("xpg_echo", false)]

/-- Turn a further switch on or off. -/
def turnToggle (on : Bool) (name : String) : Act Unit :=
  modify fun s =>
    let others := s.toggles.filter (· != name)
    { s with toggles := if on then name :: others else others }

/-- Is a switch on? There are two kinds of them. -/
def switchState (isMode : Bool) (name : String) : Act (Option Bool) := do
  let s ← get
  if isMode then
    return (Mode.extended.find? (·.name == name)).map fun mode => mode.get s.modes
  else
    return (toggleNames.lookup name).map fun _ => s.toggles.contains name

/-- Turn a switch on or off. -/
def turnSwitch (isMode on : Bool) (name : String) : Act Unit := do
  if isMode then
    match Mode.extended.find? (·.name == name) with
    | some mode => modify fun s => { s with modes := mode.put on s.modes }
    | none => pure ()
  else turnToggle on name

def shopt : Own := withOptions "pqsuo" "" fun g => do
  let isMode := g.has 'o'
  let on := g.has 's'
  let off := g.has 'u'
  if on && off then
    complainAt "cannot set and unset shell options simultaneously"
    return 1
  let tell (name : String) (state : Bool) : Act Unit := do
    if g.has 'q' then pure ()
    else if g.has 'p' then
      say (if isMode then "set " ++ (if state then "-o " else "+o ") ++ name ++ "\n"
        else "shopt " ++ (if state then "-s " else "-u ") ++ name ++ "\n")
    else say (switchLine name state)
  let all := if isMode then Mode.extended.map (·.name) else toggleNames.map (·.1)
  if g.operands.isEmpty then
    for name in all do
      let state := (← switchState isMode name).getD false
      if (!on && !off) || state == on then tell name state
    return 0
  let fine ← g.operands.mapM fun name => do
    match ← switchState isMode name with
    | none => do
      complainAt (name ++ (if isMode then ": invalid option name" else ": invalid shell option name"))
      return false
    | some state => do
      if on || off then
        turnSwitch isMode on name
        return true
      tell name state
      return state
  return if fine.all id then 0 else 1

end Ensemble.Shell.Extended.Builtin
