import Ensemble.Binding
import Ensemble.Path

/-!
# Ensemble.Invocation

An **invocation**: a shell command and everything needed to run it, namely the directory, the
bindings that are laid over the inherited environment in order, and what becomes of the output
besides being captured.
-/

namespace Ensemble

/-- What becomes of a command's output besides being captured. -/
inductive Capture
  /-- Nothing: it is not shown. -/
  | silent
  /-- It is shown on this process's own streams. -/
  | streams
  /-- It goes to a labeller. -/
  | sink
deriving DecidableEq, Repr

/-- A shell command with its surroundings. -/
structure Invocation where
  command : String
  /-- The directory it runs in, if not the current one. -/
  dir : Option Path := none
  env : List Binding := []
  capture : Capture := .silent
deriving DecidableEq, Repr

namespace Invocation

/-- The value that the invocation sets a variable to, if it sets it. -/
def envValue (inv : Invocation) (key : String) : Option String :=
  Binding.lookup inv.env key

end Invocation

/-- How a way of capturing is displayed. -/
def Capture.display : Capture → String
  | .silent => "Silent"
  | .streams => "Mirrored(std)"
  | .sink => "Mirrored(sink)"

end Ensemble
