import Ensemble.Component
import Ensemble.Invocation
import Ensemble.Phase

/-!
# Ensemble.Project

A **project** is a descriptor together with the options of the phases. Every command that a phase
can run is made here, and nowhere else: checks, the calls of build, test and clean, and the two
calls of the run phase.
-/

namespace Ensemble

/-- What all phases share. -/
structure Options where
  /-- The delegate build tool, as a command. -/
  tool : String
  /-- Where artifacts go: each component's below its name. -/
  binRoot : Path
  /-- The variable that tells a component its destination. -/
  destVar : String
  labelWidth : Nat
deriving DecidableEq, Repr

/-- A descriptor with the options to work on it. -/
structure Project where
  descriptor : Descriptor
  options : Options
deriving DecidableEq, Repr

/-- A check runs where it is, shows nothing and gets no bindings. -/
def Check.invocation (c : Check) : Invocation :=
  { command := c.command }

namespace Project

/-- The components, in the order of the includes. -/
def components (p : Project) : List Component :=
  p.descriptor.includes.map fun i => .ofInclude i p.descriptor.baseDir p.options.binRoot

/-- The binding of a component's destination. -/
def destBinding (p : Project) (c : Component) : Binding :=
  c.destBinding p.options.destVar

/-- The call of a phase that takes the components one by one. -/
def phaseInvocation (p : Project) (phase : Phase) (c : Component) : Invocation where
  command := c.command p.options.tool phase.target
  dir := some c.dir
  env := [p.destBinding c]
  capture := .streams

/-- The call that prints a component's environment. If the root file supplies it, its rule
`component/env` is called, in the root file's directory. -/
def envInvocation (p : Project) (c : Component) : Invocation :=
  if p.descriptor.hasOverride c.name envTarget then
    { command := p.options.tool ++ " -f " ++ p.descriptor.fullPath.text ++ " " ++ c.name ++ "/" ++
        envTarget
      dir := some p.descriptor.baseDir }
  else
    { command := c.command p.options.tool envTarget, dir := some c.dir }

/-- The bindings of a component's run call: those its environment call printed, and behind them,
so that nothing printed hides it, the destination. -/
def runBindings (p : Project) (c : Component) (printed : String) : List Binding :=
  Binding.parseAll printed ++ [p.destBinding c]

/-- The call that runs a component, once its environment is known. -/
def runInvocation (p : Project) (c : Component) (printed : String) : Invocation where
  command := c.command p.options.tool Phase.run.target
  dir := some c.dir
  env := p.runBindings c printed
  capture := .sink

end Project

end Ensemble
