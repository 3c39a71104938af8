import Ensemble.Project
import Ensemble.Runner
import Ensemble.Text.Search

/-!
# Ensemble.Sequence

What is done **one by one, up to the first failure**: the checks, and the phases build, test and
clean.

A check fails if its command fails or if its output lacks the expected text. Nothing is remembered
of a check: whoever asks for the checks runs them anew.
-/

namespace Ensemble

/-! ### Checks -/

/-- What becomes of a check when its command has ended. -/
def Check.verdict (c : Check) : Except Fault String → Except Failure Unit
  | .error fault =>
    .error ((Failure.ofFault fault).within ("failed to run check `" ++ c.command ++ "`"))
  | .ok output =>
    if Text.contains output c.equals then .ok ()
    else .error (.ofFault (.checkFailed c.command c.equals output))

/-- Run checks in order, up to the first that fails. -/
def runChecks (r : Runner σ) : List Check → Action σ
  | [], host => .done host
  | c :: checks, host =>
    let (reply, events, host) := r.perform c.invocation host
    (Outcome.mk (c.verdict reply) events host).andThen (runChecks r checks)

/-- Run all checks; if there are any and all have passed, say so. -/
def checkAll (r : Runner σ) (checks : List Check) : Action σ := fun host =>
  (runChecks r checks host).andThen fun host =>
    if checks = [] then .done host
    else (Outcome.done host).after [.checksPassed checks.length]

/-! ### Phases that take one component at a time -/

/-- Where a phase failed. -/
def phaseContext (phase : Phase) (c : Component) : String :=
  "failed to " ++ phase.target ++ " component '" ++ c.name ++ "' in " ++ c.dir.text

/-- Make a phase's target of one component. -/
def runComponent (r : Runner σ) (p : Project) (phase : Phase) (c : Component) : Action σ :=
  fun host =>
    let (reply, events, host) := r.perform (p.phaseInvocation phase c) host
    let events := .began phase c.name :: events
    match reply with
    | .ok _ => ⟨.ok (), events ++ [.finished phase c.name], host⟩
    | .error fault =>
      ⟨.error ((Failure.ofFault fault).within (phaseContext phase c)), events, host⟩

/-- Make a phase's target of components in order, up to the first that fails. -/
def runInOrder (r : Runner σ) (p : Project) (phase : Phase) : List Component → Action σ
  | [], host => .done host
  | c :: components, host =>
    (runComponent r p phase c host).andThen (runInOrder r p phase components)

/-- A whole phase, one component at a time. -/
def runPhaseInOrder (r : Runner σ) (p : Project) (phase : Phase) : Action σ :=
  runInOrder r p phase p.components

end Ensemble
