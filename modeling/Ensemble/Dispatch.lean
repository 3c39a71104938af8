import Ensemble.RunPhase

/-!
# Ensemble.Dispatch

The **commands** of the program. Each runs the checks first; without a command everything is built
and then run. What fails is told with the stage it failed in.
-/

namespace Ensemble

/-- A command of the program. Without one, everything is built and then run. -/
inductive Command
  | build
  | test
  | clean
deriving DecidableEq, Repr

/-- The phase of a command that takes the components one by one, under its name in messages. -/
def phaseNamed (r : Runner σ) (p : Project) (phase : Phase) (name : String) : Action σ :=
  fun host => (runPhaseInOrder r p phase host).within ("failed to " ++ name)

/-- Carry out a command. -/
def dispatch (r : Runner σ) (p : Project) (command : Option Command) : Action σ := fun host =>
  ((checkAll r p.descriptor.checks host).within "failed to TestChecks").andThen <|
    match command with
    | none => fun host =>
      (phaseNamed r p .build "BuildAll" host).andThen fun host =>
        (runAll r p host).within "failed to RunAll"
    | some .build => phaseNamed r p .build "BuildAll"
    | some .test => phaseNamed r p .test "TestAll"
    | some .clean => phaseNamed r p .clean "CleanAll"

end Ensemble
