import Ensemble.Utility.Making.Text
import Ensemble.Utility.Starting
import Std.Data.HashMap

/-!
# Ensemble.Utility.Making.Book

What is **known of makefiles**: variables, targets with what they are made from, and rules of patterns.
A variable keeps where its value comes from, since a weaker origin does not replace a stronger one. A
target knows what has come of it.
-/

/-! ### Numbers of names

**Numbers of names** by which names are put in an order that looks like none: the octets of a name are
added to three numbers, four by four in turn, and the numbers are mixed.
-/

namespace Ensemble.Utility.Making

/-- Three numbers that are mixed. -/
structure Mixing where
  a : UInt32 := 0xdeadbeef
  b : UInt32 := 0xdeadbeef
  c : UInt32 := 0xdeadbeef

namespace Mixing

def turned (x : UInt32) (n : UInt32) : UInt32 :=
  (x <<< n) ||| (x >>> (32 - n))

/-- Mix all three. -/
def mixed (m : Mixing) : Mixing :=
  let a := (m.a - m.c) ^^^ turned m.c 4
  let c := m.c + m.b
  let b := (m.b - a) ^^^ turned a 6
  let a := a + c
  let c := (c - b) ^^^ turned b 8
  let b := b + a
  let a := (a - c) ^^^ turned c 16
  let c := c + b
  let b := (b - a) ^^^ turned a 19
  let a := a + c
  let c := (c - b) ^^^ turned b 4
  let b := b + a
  ⟨a, b, c⟩

/-- The number that comes of all three. -/
def final (m : Mixing) : UInt32 :=
  let c := (m.c ^^^ m.b) - turned m.b 14
  let a := (m.a ^^^ c) - turned c 11
  let b := (m.b ^^^ a) - turned a 25
  let c := (c ^^^ b) - turned b 16
  let a := (a ^^^ c) - turned c 4
  let b := (b ^^^ a) - turned a 14
  (c ^^^ b) - turned b 24

/-- Four octets as a number. -/
def number (cs : List Char) : UInt32 :=
  (cs.take 4).foldr (fun c n => (n <<< 8) + c.toNat.toUInt32) 0

/-- The number of a name, given how many octets have been taken: four by four they are put to one of
the three numbers, which are mixed when each has got some. -/
def numberFrom (taken : UInt32) : Nat → Mixing → List Char → UInt32
  | 0, m, _ => m.final + taken
  | fuel + 1, m, cs =>
    let first := { m with a := m.a + number cs }
    if cs.length < 4 then first.final + taken
    else
      let cs := cs.drop 4
      let second := { first with b := m.b + number cs }
      if cs.length < 4 then second.final + (taken + 4)
      else
        let cs := cs.drop 4
        let third := { second with c := m.c + number cs }
        if cs.length < 4 then third.final + (taken + 8)
        else numberFrom (taken + 12) fuel third.mixed (cs.drop 4)

/-- The number by which a name of a target is put among others. -/
def numberOf (name : String) : Nat :=
  (numberFrom 0 (name.length + 1) {} name.toList).toNat

/-- The number of the rest of a name: the octets of the last twelve go to those of the three numbers that
are in turn, the last four of them to the third in any case. -/
def restNumber : Nat → Mixing → List Char → UInt32
  | 0, m, _ => m.c
  | fuel + 1, m, cs =>
    if cs.length > 12 then
      let m : Mixing :=
        ⟨m.a + number cs, m.b + number (cs.drop 4), m.c + number (cs.drop 8)⟩
      restNumber fuel m.mixed (cs.drop 12)
    else if cs.isEmpty then m.c
    else
      let (m, cs) := if cs.length > 8 then ({ m with a := m.a + number cs }, cs.drop 4) else (m, cs)
      let (m, cs) := if cs.length > 4 then ({ m with b := m.b + number cs }, cs.drop 4) else (m, cs)
      { m with c := m.c + number cs : Mixing }.final

/-- The number by which a name of a variable is put among others: its length is there from the first. -/
def numberOfVariable (name : String) : Nat :=
  let first : UInt32 := 0xdeadbeef + name.length.toUInt32
  (restNumber (name.length + 1) ⟨first, first, first⟩ name.toList).toNat

/-- Things in the order of their numbers. -/
def arranged (number : α → Nat) (all : List α) : List α :=
  let numbered := all.map fun a => (number a % 1024, a)
  (numbered.mergeSort fun x y => decide (x.1 ≤ y.1)).map (·.2)

end Mixing

end Ensemble.Utility.Making

/-! ### What is known -/

namespace Ensemble.Utility.Making

/-- Where a variable comes from. -/
inductive Origin
  | usual
  | environment
  | file
  | environmentFirst
  | commandLine
  | override
  | automatic
deriving DecidableEq, Repr

namespace Origin

def words : Origin → String
  | .usual => "default"
  | .environment => "environment"
  | .file => "file"
  | .environmentFirst => "environment override"
  | .commandLine => "command line"
  | .override => "override"
  | .automatic => "automatic"

/-- Of two origins the higher keeps its value. -/
def rank : Origin → Nat
  | .usual => 0
  | .environment => 1
  | .file => 2
  | .environmentFirst => 3
  | .commandLine => 4
  | .override => 5
  | .automatic => 6

end Origin

/-- A line in a file. -/
structure Spot where
  file : String
  line : Nat
deriving DecidableEq, Repr

def Spot.told (s : Spot) : String :=
  s.file ++ ":" ++ toString s.line ++ ": "

/-- Whether started programs get a variable. -/
inductive Passing
  | unsaid
  | always
  | never
  | ifSet
deriving DecidableEq, Repr

/-- A variable. -/
structure Variable where
  value : String := ""
  /-- Is the value expanded where it is asked for? -/
  recursive : Bool := true
  origin : Origin := .file
  passing : Passing := .unsaid
  /-- Is it hidden from what its target is made from? -/
  isPrivate : Bool := false
  /-- Does its value come behind that of the scope around? -/
  appends : Bool := false
  /-- Does it belong to a target? -/
  isLocal : Bool := false
  spot : Option Spot := none
deriving Repr

abbrev Scope := List (String × Variable)

/-- The commands by which a target is made. -/
structure Recipe where
  lines : List String
  /-- Where it stands, if it does in a file. -/
  spot : Option Spot
  /-- What stands before its lines. -/
  mark : Char := '\t'
  /-- Of which of the rules that have been read it is the recipe. -/
  rule : Nat := 0
deriving DecidableEq, Repr

/-- What a target is made from. -/
structure Prerequisite where
  name : String
  /-- Is it made before, but never the reason to make the target? -/
  orderOnly : Bool := false
  /-- Is it a text that is expanded when all has been read? -/
  isLate : Bool := false
  /-- Does its pattern take the stem of the target, and which? -/
  isPattern : Bool := false
  stem : Option String := none
  changed : Bool := false
deriving Repr

/-- What has come of a target. -/
inductive Outcome
  | done
  | untried
  /-- There is something to do that is only asked for. -/
  | wanted
  | failed
deriving DecidableEq, Repr

def Outcome.rank : Outcome → Nat
  | .done => 0
  | .untried => 1
  | .wanted => 2
  | .failed => 3

def Outcome.worse (a b : Outcome) : Outcome :=
  if a.rank < b.rank then b else a

/-- When a file has changed. -/
inductive Age
  | missing
  /-- Older than all that there is. -/
  | old
  | dated (time : Int)
  /-- Newer than all that there is. -/
  | new
deriving DecidableEq, Repr

/-- Is one age later than another? -/
def Age.isAfter : Age → Age → Bool
  | .missing, _ => false
  | .old, b => b == .missing
  | .dated a, .dated b => decide (b < a)
  | .dated _, b => b != .new
  | .new, b => b != .new

/-- A target, by its name; of a target with several rules that stand for themselves, by its number. -/
structure Key where
  name : String
  number : Nat := 0
deriving DecidableEq, Repr

/-- A file that is made, or something is made from. -/
structure Target where
  name : String
  /-- Where it is found. -/
  place : String
  prerequisites : List Prerequisite := []
  recipe : Option Recipe := none
  stem : Option String := none
  /-- What is made together with it. -/
  together : List String := []
  scope : Scope := []
  patternScope : Option Scope := none
  /-- For what it is made. -/
  parent : Option Key := none
  isDouble : Bool := false
  /-- Does a rule name it as its target? -/
  isTarget : Bool := false
  isPhony : Bool := false
  isPrecious : Bool := false
  isIntermediate : Bool := false
  isSecondary : Bool := false
  /-- Is it asked for? -/
  isGoal : Bool := false
  isSilent : Bool := false
  isIgnoring : Bool := false
  /-- Is it no failure if it cannot be made? -/
  mayMiss : Bool := false
  /-- Has its failure not been told? -/
  untold : Bool := false
  /-- Has a rule of a pattern been looked for? -/
  isSearched : Bool := false
  isUpdating : Bool := false
  isUpdated : Bool := false
  outcome : Outcome := .untried
  age : Option Age := none
  ageBefore : Option Age := none
  /-- Is it not looked for in other directories? -/
  isHere : Bool := false

/-- A rule by which all targets can be made that a pattern fits. -/
structure PatternRule where
  targets : List Pattern
  prerequisites : List Prerequisite
  recipe : Option Recipe
  /-- Must what it makes them from be there? -/
  isTerminal : Bool := false
deriving Repr

/-- How a variable is set. -/
inductive Setting
  | recursive
  | simple
  | ifMissing
  | more
  | output
deriving DecidableEq, Repr

/-- A variable for all targets that a pattern fits. -/
structure PatternVariable where
  target : Pattern
  name : String
  how : Setting
  content : Variable
deriving Repr

/-- How targets are made. -/
structure Manner where
  silent : Bool := false
  keepGoing : Bool := false
  ignoring : Bool := false
  onlyTold : Bool := false
  onlyAsked : Bool := false
  /-- Are targets only given the time of now? -/
  touching : Bool := false
  always : Bool := false
  traced : Bool := false
  environmentWins : Bool := false
  warnsUndefined : Bool := false
  /-- Are there no rules, and no variables, but those of makefiles? -/
  withoutRules : Bool := false
  withoutVariables : Bool := false
  /-- Is the directory told? -/
  tellsDirectory : Bool := false
  neverTellsDirectory : Bool := false

/-- A file that is read. -/
structure Makefile where
  name : String
  /-- Why it could not be read, and whether that is told before its making fails. -/
  told : Option String := none
  isMissing : Bool := false
  isIncluded : Bool := false
  /-- May it be missing? -/
  mayMiss : Bool := false
deriving Repr

/-- What is known of makefiles, and what has been made. -/
structure Book where
  /-- The name under which something is told. -/
  name : String
  manner : Manner := {}
  vars : Scope := []
  targets : Std.HashMap String (Array Target) := {}
  patterns : List PatternRule := []
  patternVariables : List PatternVariable := []
  /-- Where files are looked for: by patterns, and all files. -/
  places : List (Pattern × List String) := []
  includeDirectories : List String := []
  /-- What stands before the lines of recipes. -/
  mark : Char := '\t'
  isPosix : Bool := false
  isExpandingTwice : Bool := false
  isOneShell : Bool := false
  exportsAll : Bool := false
  allSecondary : Bool := false
  /-- Has all been read? -/
  isRead : Bool := false
  /-- The line that is being read or run, and the one of the variable that is being expanded. -/
  spot : Option Spot := none
  valueSpot : Option Spot := none
  /-- The scopes of calls, and the target whose variables count. -/
  scopes : List Scope := []
  target : Option Key := none
  /-- How many arguments the call around has. -/
  arguments : Nat := 0
  /-- The variables that are being expanded, and those of them that may ask for themselves. -/
  expanding : List String := []
  called : List String := []
  makefiles : List Makefile := []
  /-- What is told before the next failure. -/
  owed : Option String := none
  /-- Are makefiles being made? -/
  isRemaking : Bool := false
  impossible : List String := []
  hasSkew : Bool := false
  /-- Is the end near? -/
  isLeaving : Bool := false
  /-- The directory that is told when it is left. -/
  entered : Option String := none
  /-- The number of rules that have been read. -/
  rulesRead : Nat := 0
  /-- The number of commands that have been started. -/
  started : Nat := 0

/-- A step of making. -/
abbrev Making (α : Type) := StateT Book Tool α

namespace Book

/-! ### Targets -/

def target? (b : Book) (k : Key) : Option Target := do
  (← b.targets[k.name]?)[k.number]?

def find? (b : Book) (name : String) : Option Target :=
  b.target? ⟨name, 0⟩

/-- A book with a target changed. -/
def adjusted (b : Book) (k : Key) (f : Target → Target) : Book :=
  { b with targets := b.targets.modify k.name fun all => all.modify k.number f }

/-- A book in which there is a target. -/
def withTarget (b : Book) (name : String) : Book :=
  if b.targets.contains name then b
  else { b with targets := b.targets.insert name #[{ name, place := name }] }

/-- All entries of a target. -/
def keysOf (b : Book) (name : String) : List Key :=
  (List.range ((b.targets[name]?).map (·.size) |>.getD 0)).map fun n => ⟨name, n⟩

/-- Is there a rule for a special target? -/
def hasMark (b : Book) (name : String) : Bool :=
  ((b.find? name).map (·.isTarget)).getD false

/-! ### Variables -/

/-- A scope, and whether the next one belongs to something else. -/
abbrev Layer := Scope × Bool

/-- The scopes of a target: its own, those of patterns, and those of what it is made for. -/
def layersOf (b : Book) : Nat → Option Key → List Layer
  | 0, _ => []
  | _, none => []
  | fuel + 1, some k =>
    match b.target? k with
    | none => []
    | some t =>
      if t.isDouble && k.number != 0 then (t.scope, false) :: b.layersOf fuel (some ⟨k.name, 0⟩)
      else
        match t.patternScope with
        | none => (t.scope, true) :: b.layersOf fuel t.parent
        | some s => (t.scope, false) :: (s, true) :: b.layersOf fuel t.parent

/-- The scopes in which variables are looked for, from the inside. -/
def layers (b : Book) : List Layer :=
  b.scopes.map (·, false) ++ b.layersOf 1000 b.target ++ [(b.vars, false)]

/-- A variable in layers, given whether they belong to something else, and the layers behind it. -/
def seek (name : String) : Bool → List Layer → Option (Variable × Bool × List Layer)
  | _, [] => none
  | isOther, (scope, crosses) :: layers =>
    match scope.lookup name with
    | some v =>
      if isOther && v.isPrivate then seek name (isOther || crosses) layers
      else some (v, isOther || crosses, layers)
    | none => seek name (isOther || crosses) layers

/-- A variable by its name. -/
def lookup? (b : Book) (name : String) : Option Variable :=
  match b.scopes, b.target with
  | [], none => b.vars.lookup name
  | _, _ => (seek name false b.layers).map (·.1)

/-- A scope with a variable set. -/
def put (name : String) (v : Variable) (s : Scope) : Scope :=
  if s.any (·.1 == name) then s.map fun (n, w) => if n == name then (n, v) else (n, w)
  else s ++ [(name, v)]

/-- A book with a variable set for all. -/
def withVariable (b : Book) (name : String) (v : Variable) : Book :=
  { b with vars := put name v b.vars }

/-- The origin of the environment. -/
def environmentOrigin (b : Book) : Origin :=
  if b.manner.environmentWins then .environmentFirst else .environment

end Book

/-! ### Telling -/

/-- Tell something on standard error. -/
def tell (text : String) : Making Unit := do
  flush
  sayError text

/-- Tell something that does not end the work. -/
def tellAt (spot : Option Spot) (text : String) : Making Unit := do
  let b ← get
  tell ((match spot with | some s => s.told | none => b.name ++ ": ") ++ text ++ "\n")

/-- Tell of a failure. -/
def tellFailure (text : String) : Making Unit := do
  let b ← get
  set { b with owed := none }
  tell ((b.owed.getD "") ++ b.name ++ ": " ++ text ++ "\n")

/-- The names of all targets in the order in which they are looked through. -/
def Book.names (b : Book) : List String :=
  Mixing.arranged Mixing.numberOf (b.targets.keys.mergeSort fun x y => decide (x ≤ y))

/-- Remove the files that were only needed on the way. -/
def removeIntermediates : Making Unit := do
  let b ← get
  if b.manner.onlyAsked || b.manner.touching || b.allSecondary then return
  let mut isFirst := true
  for name in b.names do
    for k in b.keysOf name do
      match b.target? k with
      | none => pure ()
      | some t =>
        if t.isIntermediate && (t.mayMiss || !t.isPrecious) && !t.isSecondary && !t.isGoal &&
            t.outcome != .untried then
          let isGone ←
            if b.manner.onlyTold then pure true
            else
              match ← ask (.unlink t.place) with
              | .ok _ => pure true
              | .error _ => pure false
          if isGone && !t.mayMiss && !b.manner.silent then
            say ((if isFirst then "rm " else " ") ++ t.place)
            isFirst := false
  if !isFirst then sayLine ""

/-- End with a status. -/
def leave (status : Nat) : Making α := do
  if !(← get).isLeaving then
    modify fun b => { b with isLeaving := true }
    removeIntermediates
  let b ← get
  match b.entered with
  | some dir => sayLine (b.name ++ ": Leaving directory '" ++ dir ++ "'")
  | none => pure ()
  quit status

/-- Tell why nothing more can be done, and end. -/
def giveUpBecause (told : String) : Making α := do
  tellAt none ("*** " ++ told ++ ".  Stop.")
  leave 2

/-- Tell why a place of a makefile cannot be used, and end. -/
def refuseAt (spot : Option Spot) (told : String) : Making α := do
  match spot with
  | some s => do
    tell (s.told ++ "*** " ++ told ++ ".  Stop.\n")
    leave 2
  | none => giveUpBecause told

/-- Tell why the makefile cannot be used, and end. -/
def refuse (told : String) : Making α := do
  refuseAt (← get).spot told

/-- Tell why a value cannot be used, and end. -/
def refuseValue (told : String) : Making α := do
  let b ← get
  refuseAt (b.valueSpot.orElse fun _ => b.spot) told

end Ensemble.Utility.Making
