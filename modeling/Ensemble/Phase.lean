/-!
# Ensemble.Phase

The four **phases** that pass over all components, and the targets they make.
-/

namespace Ensemble

/-- A pass over every component. -/
inductive Phase
  | build
  | test
  | run
  | clean
deriving DecidableEq, Repr

namespace Phase

/-- The target of the delegate build tool that a phase makes. -/
def target : Phase → String
  | .build => "build"
  | .test => "test"
  | .run => "run"
  | .clean => "clean"

/-- What a phase is doing, in words. -/
def progress : Phase → String
  | .build => "building"
  | .test => "testing"
  | .run => "running"
  | .clean => "cleaning"

/-- What is said when a phase is over for a component. -/
def complete : Phase → String
  | .build => "build complete"
  | .test => "test complete"
  | .run => "run complete"
  | .clean => "clean complete"

end Phase

/-- The target that prints a component's run environment. -/
def envTarget : String := "env"

end Ensemble
