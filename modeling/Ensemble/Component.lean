import Ensemble.Binding
import Ensemble.Descriptor

/-!
# Ensemble.Component

A **component** is what an include amounts to: a name, the directory its commands run in, its build
file there, and the place its artifact goes to. The delegate build tool is called with that file
and a target.
-/

namespace Ensemble

/-- All that the phases need to know of an include. -/
structure Component where
  name : String
  /-- Where the component's commands run. -/
  dir : Path
  /-- The component's build file, seen from `dir`. -/
  file : String
  /-- Where the component's artifact goes. -/
  dest : Path
  label : Option String
deriving DecidableEq, Repr

namespace Component

/-- The component of an include, with includes relative to `base` and artifacts below `binRoot`. -/
def ofInclude (i : Include) (base binRoot : Path) : Component where
  name := i.componentName
  dir := (i.resolve base).directory
  file := (i.resolve base).fileName.getD ""
  dest := binRoot.join ⟨i.componentName⟩
  label := i.label

/-- The command that makes `target` of the component. -/
def command (c : Component) (tool target : String) : String :=
  tool ++ " -f " ++ c.file ++ " " ++ target

/-- The binding that tells the component where its artifact goes. -/
def destBinding (c : Component) (var : String) : Binding :=
  ⟨var, c.dest.text⟩

end Component

end Ensemble
