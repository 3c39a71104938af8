/-!
# Ensemble.Text.Regex.Basic

**Regular expressions** over octets. An expression is walked along a text from a `Mark`, and comes to
all marks that it can come to (`Regex.walk`), those first that are to be preferred: a repetition
rather goes on than stops, and of alternatives the first is preferred. Of two ways to one place the
preferred one is kept, so a walk takes no longer than there are places.

A search takes the first place at which the expression matches anything, and there the longest
match.
-/

namespace Ensemble.Text

/-- What can be asked of a place between characters. -/
inductive Edge
  | lineStart
  | lineFinish
  | textStart
  | textFinish
  | wordStart
  | wordFinish
  | word
  | noWord
deriving DecidableEq, Repr

/-- A regular expression. -/
inductive Regex
  | empty
  /-- A character of a kind. -/
  | char (accepts : Char → Bool)
  | edge (e : Edge)
  | both (first second : Regex)
  | either (first second : Regex)
  /-- At least and at most so many times. -/
  | times (least : Nat) (most : Option Nat) (r : Regex)
  | group (number : Nat) (r : Regex)
  /-- What a group has matched, once more. -/
  | again (number : Nat)

/-- A text that an expression is walked along. -/
structure Sight where
  text : Array Char
  /-- Do lines begin and end inside of the text? -/
  manyLines : Bool := false
  ignoresCase : Bool := false
  /-- Does the expression ask for what a group has matched? -/
  remembers : Bool := false

/-- How far a walk has come, and from where to where its groups have matched. -/
structure Mark where
  place : Nat
  groups : List (Nat × Nat × Nat) := []
deriving DecidableEq, Repr

/-- A match in a text: from where to where, and the same of its groups. -/
structure Match where
  start : Nat
  stop : Nat
  groups : List (Nat × Nat × Nat)
deriving Repr

/-- A character of words. -/
def isWordChar (c : Char) : Bool :=
  c.isAlphanum || c == '_'

namespace Edge

/-- Does a place have this edge? -/
def holds (e : Edge) (sight : Sight) (place : Nat) : Bool :=
  let before := if place = 0 then none else sight.text[place - 1]?
  let after := sight.text[place]?
  let inWord (c : Option Char) : Bool := c.any isWordChar
  match e with
  | .textStart => place = 0
  | .textFinish => place = sight.text.size
  | .lineStart => place = 0 || (sight.manyLines && before == some '\n')
  | .lineFinish => place = sight.text.size || (sight.manyLines && after == some '\n')
  | .wordStart => !inWord before && inWord after
  | .wordFinish => inWord before && !inWord after
  | .word => inWord before != inWord after
  | .noWord => inWord before == inWord after

end Edge

namespace Regex

/-! ### Walking -/

/-- Of marks with one place the first. If groups are asked for, marks with other groups are kept. -/
def distinct (sight : Sight) (marks : List Mark) : List Mark :=
  if sight.remembers then marks.eraseDups
  else
    let seen := Array.replicate (sight.text.size + 1) false
    let (_, kept) := marks.foldl (fun (seen, kept) m =>
      if seen.getD m.place false then (seen, kept)
      else (seen.setIfInBounds m.place true, m :: kept)) (seen, ([] : List Mark))
    kept.reverse

/-- Step from all marks. -/
def stepAll (sight : Sight) (step : Mark → List Mark) (marks : List Mark) : List Mark :=
  distinct sight (marks.flatMap step)

/-- The marks after so many steps. -/
def stepTimes (sight : Sight) (step : Mark → List Mark) : Nat → List Mark → List Mark
  | 0, marks => marks
  | n + 1, marks =>
    let next := stepAll sight step marks
    if next.isEmpty then [] else stepTimes sight step n next

/-- The marks after at most so many steps; more steps are preferred. -/
def stepUpTo (sight : Sight) (step : Mark → List Mark) : Nat → List Mark → List Mark
  | 0, marks => marks
  | n + 1, marks =>
    let next := stepAll sight step marks
    if next.isEmpty then marks else distinct sight (stepUpTo sight step n next ++ marks)

/-- The marks after any number of steps from a mark, the last first, behind those that have been
found before. -/
def closure (step : Mark → List Mark) : Nat → Mark → Array Bool × List Mark → Array Bool × List Mark
  | 0, _, found => found
  | fuel + 1, m, (seen, found) =>
    if seen.getD m.place true then (seen, found)
    else
      let further := (step m).filter fun n => decide (m.place < n.place)
      let (seen, found) := further.foldl (fun found n => closure step fuel n found)
        (seen.setIfInBounds m.place true, found)
      (seen, m :: found)

/-- The marks after any number of steps; more steps are preferred. -/
def stepAny (sight : Sight) (step : Mark → List Mark) (marks : List Mark) : List Mark :=
  let seen := Array.replicate (sight.text.size + 1) false
  let (_, found) := marks.foldl (fun found m => closure step (sight.text.size + 1) m found)
    (seen, ([] : List Mark))
  found.reverse

/-- The number of characters of a kind from a place on. -/
def runLength (text : Array Char) (accepts : Char → Bool) : Nat → Nat → Nat
  | 0, _ => 0
  | fuel + 1, place =>
    match text[place]? with
    | some c => if accepts c then runLength text accepts fuel (place + 1) + 1 else 0
    | none => 0

/-- Are these pieces of a text alike? -/
def sameText (sight : Sight) (a b length : Nat) : Bool :=
  (List.range length).all fun n =>
    match sight.text[a + n]?, sight.text[b + n]? with
    | some c, some d => c == d || (sight.ignoresCase && c.toLower == d.toLower)
    | _, _ => false

/-- The marks that an expression comes to from a mark. -/
def walk (sight : Sight) : Regex → Mark → List Mark
  | .empty, m => [m]
  | .char accepts, m =>
    match sight.text[m.place]? with
    | some c => if accepts c then [{ m with place := m.place + 1 }] else []
    | none => []
  | .edge e, m => if e.holds sight m.place then [m] else []
  | .both a b, m => distinct sight ((walk sight a m).flatMap (walk sight b))
  | .either a b, m => distinct sight (walk sight a m ++ walk sight b m)
  | .times least most (.char accepts), m =>
    let run := runLength sight.text accepts (most.getD sight.text.size) m.place
    if run < least then []
    else (List.range (run - least + 1)).map fun n => { m with place := m.place + (run - n) }
  | .times least most r, m =>
    let start := stepTimes sight (walk sight r) least [m]
    match most with
    | some most => stepUpTo sight (walk sight r) (most - least) start
    | none => stepAny sight (walk sight r) start
  | .group n r, m =>
    (walk sight r m).map fun after =>
      { after with groups := (n, m.place, after.place) :: after.groups.filter (·.1 != n) }
  | .again n, m =>
    match m.groups.lookup n with
    | some (start, stop) =>
      if sameText sight start m.place (stop - start) then
        [{ m with place := m.place + (stop - start) }]
      else []
    | none => []

/-- Of marks the first of those that have come furthest. -/
def furthest : List Mark → Option Mark
  | [] => none
  | m :: ms =>
    match furthest ms with
    | some best => if m.place < best.place then some best else some m
    | none => some m

/-- The longest match at a place. -/
def matchAt (sight : Sight) (r : Regex) (place : Nat) : Option Match :=
  (furthest (r.walk sight ⟨place, []⟩)).map fun m => ⟨place, m.place, m.groups⟩

/-- The first match at or behind a place, among so many places. -/
def searchAmong (sight : Sight) (r : Regex) : Nat → Nat → Option Match
  | 0, _ => none
  | fuel + 1, place =>
    match r.matchAt sight place with
    | some found => some found
    | none => searchAmong sight r fuel (place + 1)

/-- The first match at or behind a place. -/
def search (sight : Sight) (r : Regex) (behind : Nat) : Option Match :=
  searchAmong sight r (sight.text.size + 1 - behind) behind

/-- The furthest mark is one of the marks, and none is further. -/
theorem furthest_max {ms : List Mark} {m : Mark} (h : furthest ms = some m) :
    m ∈ ms ∧ ∀ n ∈ ms, n.place ≤ m.place := by
  induction ms generalizing m with
  | nil => simp [furthest] at h
  | cons a ms ih =>
      simp only [furthest] at h
      cases hf : furthest ms with
      | none =>
          rw [hf] at h
          cases h
          cases ms with
          | nil => simp
          | cons b ms =>
              simp only [furthest] at hf
              split at hf
              · split at hf <;> cases hf
              · cases hf
      | some best =>
          rw [hf] at h
          obtain ⟨hm, hle⟩ := ih hf
          dsimp only at h
          by_cases hlt : a.place < best.place
          · rw [if_pos hlt] at h
            cases h
            refine ⟨List.mem_cons_of_mem _ hm, ?_⟩
            intro n hn
            rcases List.mem_cons.mp hn with rfl | hn
            · omega
            · exact hle n hn
          · rw [if_neg hlt] at h
            cases h
            refine ⟨List.mem_cons_self, ?_⟩
            intro n hn
            rcases List.mem_cons.mp hn with rfl | hn
            · exact Nat.le_refl _
            · have := hle n hn
              omega

/-- The text of a match's group, the match itself being group 0. -/
def textOf (text : Array Char) (found : Match) (n : Nat) : List Char :=
  let (start, stop) :=
    if n = 0 then (found.start, found.stop) else (found.groups.lookup n).getD (0, 0)
  (text.extract start stop).toList

end Regex

end Ensemble.Text
