import Ensemble.Utility.Factoring

/-!
# Ensemble.Utility.Succession

Things in an **order in which none stands before what goes before it**: `tsort`. Where things go round in
a circle, the circle is told and one of its links is left out.
-/

namespace Ensemble.Utility

/-- A thing, with what must stand before it and what it stands before. -/
structure Successor where
  name : String
  /-- How many must still come before. -/
  before : Nat := 0
  /-- What comes behind it, by its place, the last first. -/
  after : List Nat := []
  isDone : Bool := false
  /-- The next in a circle that is being followed. -/
  next : Option Nat := none

namespace Succession

/-- All things, by their names in order. -/
abbrev Things := Array Successor

/-- The names that there are, each once and in order. -/
def namesOf (words : List String) : Array String :=
  ((words.mergeSort fun a b => decide (a ≤ b)).foldl (fun names w =>
    if names.back? == some w then names else names.push w) #[])

/-- The place of a name. -/
def placeOf (names : Array String) (name : String) : Nat :=
  (names.findIdx? (· == name)).getD 0

/-- Put one thing before another. -/
def related (all : Things) (first second : Nat) : Things :=
  if first = second then all
  else
    (all.modify second fun s => { s with before := s.before + 1 }).modify first fun s =>
      { s with after := second :: s.after }

/-- Pairs of words. -/
def pairsOf : List String → List (String × String)
  | a :: b :: more => (a, b) :: pairsOf more
  | _ => []

/-- The things that can come now. -/
def ready (all : Things) : List Nat :=
  (List.range all.size).filter fun n =>
    match all[n]? with
    | some s => s.before = 0 && !s.isDone
    | none => false

/-- Tell things as they can come, and what can come behind them. -/
def tell : Nat → List Nat → Things → Tool Things
  | 0, _, all => return all
  | _, [], all => return all
  | fuel + 1, n :: queue, all => do
    match all[n]? with
    | none => tell fuel queue all
    | some s => do
      sayLine s.name
      let all := all.modify n fun s => { s with isDone := true }
      let (all, freed) := s.after.foldl (fun (all, freed) m =>
        let all : Things := all.modify m fun s => { s with before := s.before - 1 }
        let isFree : Bool := match all[m]? with | some t => t.before == 0 | none => false
        (all, if isFree then freed ++ [m] else freed)) (all, ([] : List Nat))
      tell fuel (queue ++ freed) all

/-- The circle from a thing on, as far as it has been followed, up to another. -/
def circleTo (all : Things) (last : Nat) : Nat → Nat → List Nat
  | 0, _ => []
  | fuel + 1, n =>
    if n = last then [n]
    else n :: (match (all[n]?).bind (·.next) with | some m => circleTo all last fuel m | none => [])

/-- Follow a circle by one thing, given where it has come to. The answer is where it has come to then,
and the circle if it has been closed. -/
def follow (all : Things) (current : Option Nat) (n : Nat) : Things × Option Nat × Option (List Nat) :=
  match all[n]? with
  | none => (all, current, none)
  | some s =>
    if s.before = 0 then (all, current, none)
    else
      match current with
      | none => (all, some n, none)
      | some head =>
        if !s.after.contains head then (all, current, none)
        else if s.next.isNone then
          (all.modify n fun s => { s with next := some head }, some n, none)
        else
          let circle := circleTo all n (all.size + 1) head
          let all := (all.modify head fun s => { s with before := s.before - 1 }).modify n fun s =>
            { s with after := s.after.erase head }
          (all.map fun s => { s with next := none }, none, some circle)

/-- Look for a circle, going over all things again and again; the answer is without one of its links. -/
def openCircle : Nat → Option Nat → Things → Tool Things
  | 0, _, all => return all
  | fuel + 1, current, all => do
    let mut all := all
    let mut current := current
    let mut circle : Option (List Nat) := none
    for n in List.range all.size do
      if circle.isNone then
        let (next, now, found) := follow all current n
        all := next
        current := now
        circle := found
    match circle with
    | some places => do
      for n in places do
        match all[n]? with
        | some s => complain s.name
        | none => pure ()
      return all
    | none => if current.isNone then return all else openCircle fuel current all

/-- Tell all things in order, opening circles; were there none? -/
def run (name : String) : Nat → Bool → Things → Tool Bool
  | 0, fine, _ => return fine
  | fuel + 1, fine, all => do
    let all ← tell (all.size + 1) (ready all) all
    if all.all (·.isDone) then return fine
    complain (nameOf name ++ ": input contains a loop:")
    run name fuel false (← openCircle (all.size + 2) none all)

end Succession

open Succession in
def tsort (args : List String) : Tool Nat := do
  let (_, operands) ← ({} : Choices).given args
  match operands with
  | _ :: extra :: _ => misused ("extra operand " ++ quoted extra)
  | _ => pure ()
  let name := operands.headD "-"
  match ← contentOf name with
  | .notOpened e => giveUp 1 (nameOf name ++ ": " ++ e.message)
  | .notRead e => giveUp 1 (nameOf name ++ ": read error: " ++ e.message)
  | .text s => do
    let words := blankWords s
    if words.length % 2 = 1 then
      giveUp 1 (nameOf name ++ ": input contains an odd number of tokens")
    let names := namesOf words
    let things : Things := names.map fun name => { name }
    let things := (pairsOf words).foldl (fun all (a, b) =>
      related all (placeOf names a) (placeOf names b)) things
    return if ← run name (words.length + 1) true things then 0 else 1

end Ensemble.Utility
