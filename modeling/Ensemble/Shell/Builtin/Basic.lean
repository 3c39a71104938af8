import Ensemble.Shell.State

/-!
# Ensemble.Shell.Builtin.Basic

What the **commands of the shell's own** share. Such a command takes arguments, and its answer is a
status; used wrongly, it complains and gives up. Options stand before operands, letters can be written
behind one dash, and `--` ends them.
-/

namespace Ensemble.Shell

/-- A command of the shell's own. -/
abbrev Own := List String → Act Nat

/-- Arguments, taken apart: the letters in their order, the values of those that have one, and the
operands. -/
structure Given where
  letters : List Char := []
  values : List (Char × String) := []
  operands : List String := []

namespace Given

def has (g : Given) (c : Char) : Bool :=
  g.letters.contains c

/-- The last letter, of which the others are forgotten. -/
def last? (g : Given) : Option Char :=
  g.letters.getLast?

def value? (g : Given) (c : Char) : Option String :=
  g.values.lookup c

/-- Take the letters of one word; what `valued` holds takes the rest of the word or the next one. -/
def takeLetters (plain valued : List Char) :
    List Char → Given → List String → Act (Given × List String)
  | [], g, args => return (g, args)
  | c :: cs, g, args => do
    let g' := { g with letters := g.letters ++ [c] }
    if plain.contains c then takeLetters plain valued cs g' args
    else if valued.contains c then
      match cs, args with
      | [], v :: args => return ({ g' with values := (c, v) :: g.values }, args)
      | [], [] => giveUp ("No arg for -" ++ c.toString ++ " option")
      | cs, args => return ({ g' with values := (c, .ofList cs) :: g.values }, args)
    else giveUp ("Illegal option -" ++ c.toString)

/-- Take options off arguments. -/
def take (plain valued : List Char) : Nat → Given → List String → Act Given
  | 0, g, args => return { g with operands := args }
  | _, g, [] => return g
  | fuel + 1, g, a :: args => do
    match a.toList with
    | ['-', '-'] => return { g with operands := args }
    | '-' :: c :: cs => do
      let (g, args) ← takeLetters plain valued (c :: cs) g args
      take plain valued fuel g args
    | _ => return { g with operands := a :: args }

end Given

/-- A command whose options have these letters; some of them have values. -/
def Own.withOptions (plain valued : String) (go : Given → Act Nat) : Own := fun args => do
  go (← Given.take plain.toList valued.toList (args.length + 1) {} args)

/-- A name that a variable can have. What comes with it is left out of the complaint. -/
def checkName (name : String) : Act Unit := do
  if !isName name.toList then giveUp (name ++ ": bad variable name")

/-- Characters between quotes, as they could stand in a script. Runs of single quotes stand between
double quotes, and all else between single ones. -/
def quotedRuns : Nat → List Char → List Char
  | 0, _ => []
  | fuel + 1, cs =>
    let isQuote (c : Char) : Bool := c == '\x27'
    let (text, rest) := (cs.takeWhile (!isQuote ·), cs.dropWhile (!isQuote ·))
    let (quotes, rest) := (rest.takeWhile isQuote, rest.dropWhile isQuote)
    ['\x27'] ++ text ++ ['\x27'] ++ (if quotes.isEmpty then [] else ['\x22'] ++ quotes ++ ['\x22']) ++
      if rest.isEmpty then [] else quotedRuns fuel rest

/-- A value between quotes, as it could stand in a script. -/
def inQuotes (s : String) : String :=
  .ofList (quotedRuns (s.length + 1) s.toList)

/-- A name, and the value behind an equals sign. -/
def nameAndValue (a : String) : String × Option String :=
  match Text.splitFirst '=' a.toList with
  | some (name, value) => (.ofList name, some (.ofList value))
  | none => (a, none)

end Ensemble.Shell
