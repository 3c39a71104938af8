import Ensemble.Machine.Perform

/-!
# Ensemble.Machine.Run

**Running** the tasks of a machine. Of all tasks that can go on, the one whose time comes first goes
on by one call; so a run is settled by where it begins, although its tasks run side by side. A task
that has to wait is asked again after each step, and goes on a moment after it could.
-/

namespace Ensemble

namespace Machine

/-- The time until a task goes on that has waited. -/
def wakeTime : Nat := 50

/-- Can a task go on that has waited? -/
def canGoOn (m : Machine) (t : Task) : Bool :=
  match t.process with
  | .call c _ =>
    match m.answer t c with
    | .blocked => false
    | _ => true
  | _ => true

/-- Let those go on that have waited and need not wait any more. -/
def wake (m : Machine) : Machine :=
  if m.tasks.any (·.waiting) then
    { m with tasks := m.tasks.map fun t =>
        if t.waiting && t.isAlive && m.canGoOn t then
          { t with waiting := false, time := m.clock + wakeTime }
        else t }
  else m

/-- Of two tasks the one that goes on first. -/
def earlier (a b : Task) : Task :=
  if b.time < a.time || (b.time = a.time && b.number < a.number) then b else a

/-- The task that goes on. -/
def next? (m : Machine) : Option Task :=
  m.tasks.foldl (fun best t =>
    if t.isAlive && !t.waiting && !t.stopped then
      match best with
      | some b => some (earlier b t)
      | none => some t
    else best) none

/-- Let a task go on by one call. -/
def stepTask (m : Machine) (t : Task) : Machine :=
  let m := { m with clock := max m.clock t.time }
  let t := { t with time := m.clock }
  let m := m.changeTask t.number fun _ => t
  match t.process with
  | .ended how => m.endTask t.number how
  | .fork child next =>
    let number := m.lastTask + 1
    let start : Task :=
      { t with
        number, parent := t.number, process := child, time := t.time + forkTime, noted := [] }
    let m := m.changeTask t.number fun t =>
      { t with process := next number, time := t.time + forkingTime }
    { m with tasks := m.tasks ++ [start], lastTask := number }
  | .call c next =>
    match m.answer t c with
    | .given a m => m.changeTask t.number ({ · with process := next a })
    | .blocked => m.changeTask t.number ({ · with waiting := true })
    | .gone m => m

/-! ### Commands from outside -/

/-- The parent of tasks that are started from outside. -/
def starter : Nat := 1000

/-- A machine on which nothing runs. -/
def idle (tree : Tree) : Machine where
  tree := tree
  epoch := tree.now + timeGrain
  lastTask := starter

/-- Start a task from outside, in a directory. Its input is empty and its output is heard. -/
def enter (m : Machine) (directory : Route) (process : Process) : Nat × Machine :=
  let number := m.lastTask + 1
  let index := m.files.size
  let files := m.files ++
    #[⟨.device .null, true, false, false, 0⟩, ⟨.console number .out, false, true, false, 0⟩,
      ⟨.console number .err, false, true, false, 0⟩]
  let task : Task := {
    number, parent := starter, process, time := m.clock + forkTime
    descriptors := [(0, index), (1, index + 1), (2, index + 2)], directory }
  (number, { m with files, tasks := m.tasks ++ [task], lastTask := number })

/-- Is a task from outside over: has it ended, and can nothing more be heard of it? -/
def isOver (m : Machine) (number : Nat) : Bool :=
  !(m.tasks.any fun t => t.number == number && t.isAlive) &&
    !(m.isHeld fun f => match f.target with | .console owner _ => owner == number | _ => false)

/-- How a task from outside has ended. -/
def verdict (m : Machine) (number : Nat) : ExitStatus :=
  match (m.task? number).bind (·.ended) with
  | some (.exited n) => .exited n
  | some (.killed _) => .signalled
  | none => .exited 0

/-- Forget a task that has ended. -/
def forget (m : Machine) (number : Nat) : Machine :=
  { m with tasks := m.tasks.filter (·.number != number) }

/-- Run for so many steps at most, until something is printed, one of these tasks is over, or nothing
can go on. -/
def run (owners : List Nat) : Nat → Machine → Machine
  | 0, m => m
  | fuel + 1, m =>
    if !m.printed.isEmpty || owners.any m.isOver then m
    else
      let m := m.wake
      match m.next? with
      | none => m
      | some t => run owners fuel (m.stepTask t)

end Machine

end Ensemble
