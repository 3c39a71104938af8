import Ensemble.Text.Blank
import Ensemble.Text.Lines

/-!
# Ensemble.Binding

**Environment bindings**, and how they are read from what a command prints: each line with an
equals sign is a binding, cut at the first one, with the blanks around key and value taken off.
Every other line is talk. The order of the lines is kept, so a later binding of a key hides an
earlier one.
-/

namespace Ensemble

/-- A value for an environment variable. -/
structure Binding where
  key : String
  value : String
deriving DecidableEq, Repr

namespace Binding

/-- A binding as one line. -/
def display (b : Binding) : String :=
  b.key ++ "=" ++ b.value

/-- Read a line as a binding. -/
def ofLine? (line : String) : Option Binding := do
  let (key, value) ← Text.splitFirst '=' line.toList
  let key := Text.trimBlanks key
  if key = [] then none else some ⟨.ofList key, .ofList (Text.trimBlanks value)⟩

/-- The bindings in what a command printed. -/
def parseAll (output : String) : List Binding :=
  (Text.lines output).filterMap ofLine?

/-- The value that a list of bindings, applied in order, leaves for a key. -/
def lookup (bindings : List Binding) (key : String) : Option String :=
  (bindings.reverse.find? (·.key == key)).map (·.value)

end Binding

end Ensemble
