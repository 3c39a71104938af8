import Ensemble.Text.Regex.Reader

/-!
# Ensemble.Utility.Editing.Script

**Scripts** that edit lines one after the other. A script is a row of steps. A step has an action, and a
`Selector` that says for which lines it is taken. Blocks and labels stand beside the row: where the
block closes that a step opens, and which step a label leads to.

A text that is no script has a `ScriptFault`, and a `Place` where it was found.
-/

namespace Ensemble.Utility.Editing

/-! ### Which lines -/

/-- A regular expression of a script, and how it is matched. -/
structure Pattern where
  regex : Text.Regex
  groups : Nat
  remembers : Bool
  ignoresCase : Bool := false
  manyLines : Bool := false
  /-- Was it read to be replaced, so that its groups may be missing later? -/
  replaced : Bool := false

/-- A line that is asked for. -/
inductive Address
  | line (number : Nat)
  /-- The lines from a first one on, in steps. -/
  | every (first step : Nat)
  | last
  /-- A line that a pattern matches; without one, the pattern that was used last. -/
  | fits (pattern : Option Pattern)

/-- Where a range of lines ends. -/
inductive Bound
  | address (a : Address)
  /-- So many lines behind the first. -/
  | further (count : Nat)
  /-- The next line behind the first whose number is a multiple. -/
  | multiple (n : Nat)

/-- The lines for which a step is taken. -/
inductive Selector
  | all
  | single (a : Address)
  | range (first : Address) (bound : Bound)

namespace Selector

/-- Does a selector name two lines? -/
def isRange : Selector → Bool
  | .range .. => true
  | _ => false

/-- Does a selector take every line? -/
def isAll : Selector → Bool
  | .all => true
  | _ => false

end Selector

/-! ### What is done -/

/-- What becomes of letters. -/
inductive Letters
  | same
  | upper
  | lower
deriving DecidableEq, Repr

/-- A letter, changed. -/
def Letters.apply : Letters → Char → Char
  | .same, c => c
  | .upper, c => c.toUpper
  | .lower, c => c.toLower

/-- A part of a replacement: a text, and a group of the match behind it. -/
structure Part where
  text : List Char := []
  group : Option Nat := none
  /-- What becomes of all letters, and of the first character. -/
  all : Letters := .same
  first : Letters := .same
deriving Repr

/-- Where lines are written to. -/
inductive Target
  /-- Where edited lines go. -/
  | main
  | output
  | errors
  | file (name : String)
deriving DecidableEq, Repr

/-- Replacing matches. -/
structure Substitution where
  /-- None is the pattern that was used last. -/
  pattern : Option Pattern
  parts : List Part
  /-- The first match that is replaced, and whether those behind it are, too. -/
  nth : Nat := 1
  every : Bool := false
  /-- Is the line printed after a replacement, and is that done before it is run? -/
  prints : Bool := false
  printsFirst : Bool := false
  /-- Is the line run as a command after a replacement? -/
  runs : Bool := false
  target : Option Target := none

namespace Substitution

/-- The greatest group that is asked for. -/
def greatest (s : Substitution) : Nat :=
  (s.parts.filterMap (·.group)).foldl max 0

end Substitution

/-- What a step does. -/
inductive Action
  /-- Go on inside of a block, or behind it. -/
  | block
  | jump (label : String)
  /-- Jump if something has been replaced, or if nothing has. -/
  | jumpIf (replaced : Bool) (label : String)
  | append (text : List Char)
  | insert (text : List Char)
  | change (text : List Char)
  | delete
  | deleteFirst
  /-- Run a command; the empty one is the line itself. -/
  | run (command : List Char)
  | name
  | number
  | get
  | getMore
  | hold
  | holdMore
  | exchange
  | list (width : Option Nat)
  | next
  | nextMore
  | print
  | printFirst
  | quit (status : Nat) (silent : Bool)
  | readFile (name : String)
  | readLine (name : String)
  | write (target : Target)
  | writeFirst (target : Target)
  | substitute (s : Substitution)
  /-- Replace characters; of two for one character the first counts. -/
  | replace (pairs : List (Char × Char))
  | clear
  /-- What cannot be done. -/
  | unable (letter : Char)

/-- A step of a script. -/
structure Step where
  selector : Selector
  inverted : Bool := false
  action : Action

/-! ### Faults -/

/-- Where a piece of a script comes from. -/
inductive Source
  | expression (number : Nat)
  | file (name : String)
deriving DecidableEq, Repr

/-- A place in a script. -/
structure Place where
  source : Source
  line : Nat := 0
  taken : Nat := 0
deriving Repr

/-- How a place is told. -/
def Place.told (p : Place) : String :=
  match p.source with
  | .expression n => "-e expression #" ++ toString n ++ ", char " ++ toString p.taken ++ ": "
  | .file name => "file " ++ name ++ " line " ++ toString p.line ++ ": "

/-- Why a text is no script. -/
inductive ScriptFault
  | manyInversions
  | comma
  | lineZero
  | firstBound
  | openBlock
  | closedBlock
  | closedBlockAddress
  | excess
  | text
  | labelAddress
  | commentAddress
  | noLabel
  | noCommand
  | twoAddresses
  | openAddress
  | openSubstitution
  | openReplacement
  | flag
  | manyPrints
  | manyEverys
  | manyNumbers
  | numberZero
  | lengths
  | version
  | command (letter : Char)
  | nestedEscape
  | forbidden
  | noFile
  | emptyFlags
  | noPattern
  | reference (group : Nat)
  | regex (fault : Text.RegexFault)
deriving DecidableEq, Repr

/-- The words for a fault. -/
def ScriptFault.message : ScriptFault → String
  | .manyInversions => "multiple `!'s"
  | .comma => "unexpected `,'"
  | .lineZero => "invalid usage of line address 0"
  | .firstBound => "invalid usage of +N or ~N as first address"
  | .openBlock => "unmatched `\x7b'"
  | .closedBlock => "unexpected `\x7d'"
  | .closedBlockAddress => "`\x7d' doesn't want any addresses"
  | .excess => "extra characters after command"
  | .text => "expected \\ after `a', `c' or `i'"
  | .labelAddress => ": doesn't want any addresses"
  | .commentAddress => "comments don't accept any addresses"
  | .noLabel => "\":\" lacks a label"
  | .noCommand => "missing command"
  | .twoAddresses => "command only uses one address"
  | .openAddress => "unterminated address regex"
  | .openSubstitution => "unterminated `s' command"
  | .openReplacement => "unterminated `y' command"
  | .flag => "unknown option to `s'"
  | .manyPrints => "multiple `p' options to `s' command"
  | .manyEverys => "multiple `g' options to `s' command"
  | .manyNumbers => "multiple number options to `s' command"
  | .numberZero => "number option to `s' command may not be zero"
  | .lengths => "strings for `y' command are different lengths"
  | .version => "expected newer version of sed"
  | .command c => "unknown command: `" ++ c.toString ++ "'"
  | .nestedEscape => "recursive escaping after \\c not allowed"
  | .forbidden => "e/r/w commands disabled in sandbox mode"
  | .noFile => "missing filename in r/R/w/W commands"
  | .emptyFlags => "cannot specify modifiers on empty regexp"
  | .noPattern => "no previous regular expression"
  | .reference n => "invalid reference \\" ++ toString n ++ " on `s' command's RHS"
  | .regex f => f.message

/-! ### Scripts -/

/-- A script. -/
structure Script where
  steps : Array Step := #[]
  /-- The steps that labels lead to, the last first. -/
  labels : List (String × Nat) := []
  /-- Where blocks close, by the steps that open them. -/
  closings : List (Nat × Nat) := []
  /-- The place at which it ends. -/
  finish : Place := ⟨.expression 0, 0, 0⟩

namespace Script

/-- The step that a label leads to; the empty label leads behind the last step. -/
def labelled (s : Script) (label : String) : Nat :=
  if label = "" then s.steps.size else (s.labels.lookup label).getD s.steps.size

/-- Where to go on behind a block. -/
def behindBlock (s : Script) (opened : Nat) : Nat :=
  (s.closings.lookup opened).getD s.steps.size

end Script

end Ensemble.Utility.Editing
