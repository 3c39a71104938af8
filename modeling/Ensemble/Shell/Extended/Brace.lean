import Ensemble.Shell.Numeral
import Ensemble.Shell.Syntax

/-!
# Ensemble.Shell.Extended.Brace

**Words in braces.** A word with choices between braces stands for several words, and one with two ends
between braces for all that lie between them (`Brace.words`). What is quoted is no brace.
-/

namespace Ensemble.Shell.Extended

namespace Brace

/-- A character that is not quoted, or another piece of a word. -/
inductive Atom
  | char (c : Char)
  | piece (p : Piece)

def isChar (c : Char) : Atom → Bool
  | .char d => c == d
  | .piece _ => false

def ofWord (w : Word) : List Atom :=
  w.flatMap fun
    | .plain s => s.map .char
    | .written _ => []
    | p => [.piece p]

/-- A word, given what stands before it. A name goes on with the characters that follow it. -/
def follow (p : Piece) (w : Word) : Word :=
  match p, w with
  | .parameter name, .plain s :: rest =>
    let more := s.takeWhile isNameChar
    if isName name.toList && !more.isEmpty then
      .parameter (name ++ .ofList more) :: .plain (s.drop more.length) :: rest
    else p :: w
  | p, w => p :: w

def toWord (as : List Atom) : Word :=
  as.foldr (fun a w =>
    match a, w with
    | .char c, .plain s :: w => .plain (c :: s) :: w
    | .char c, w => .plain [c] :: w
    | .piece p, w => follow p w) []

/-- The choices between braces of which the first has been passed, and what follows the last one. -/
def choices : Nat → List Atom → List Atom → Option (List (List Atom) × List Atom)
  | _, _, [] => none
  | depth, current, a :: as =>
    if isChar '\x7b' a then choices (depth + 1) (a :: current) as
    else if isChar '\x7d' a then
      if depth = 0 then some ([current.reverse], as) else choices (depth - 1) (a :: current) as
    else if depth = 0 && isChar ',' a then
      (choices 0 [] as).map fun (more, rest) => (current.reverse :: more, rest)
    else choices depth (a :: current) as

/-- The characters of atoms that are nothing else. -/
def text? (as : List Atom) : Option (List Char) :=
  as.mapM fun
    | .char c => some c
    | .piece _ => none

/-- Cut a text where two points stand. -/
def cutAtPoints : List Char → List (List Char)
  | [] => [[]]
  | '.' :: '.' :: cs => [] :: cutAtPoints cs
  | c :: cs =>
    match cutAtPoints cs with
    | part :: parts => (c :: part) :: parts
    | [] => [[c]]

def number? (cs : List Char) : Option Int :=
  match Numeral.whole? 10 (.ofList cs) with
  | some n => if cs.any fun c => c == ' ' || c == '\t' then none else some n
  | none => none

/-- Does a number begin with a zero, or with one behind its sign? -/
def isPadded (cs : List Char) : Bool :=
  match cs with
  | '-' :: '0' :: _ :: _ | '0' :: _ :: _ => true
  | _ => false

/-- A number in a column. -/
def padded (width : Nat) (n : Int) : List Char :=
  let digits := (toString n.natAbs).toList
  let sign := if n < 0 then ['-'] else []
  sign ++ List.replicate (width - sign.length - digits.length) '0' ++ digits

/-- Words of no braces are more than these. -/
def rangeLimit : Nat := 1000000

/-- All numbers from one to another, in steps. -/
def numbers (first last step : Int) : List Int :=
  let step := if step = 0 then 1 else step.natAbs
  let count := min rangeLimit ((last - first).natAbs / step + 1)
  (List.range count).map fun (i : Nat) =>
    if first ≤ last then first + (i * step : Nat) else first - (i * step : Nat)

/-- All that lies between two ends. -/
def range? (cs : List Char) : Option (List (List Char)) :=
  let parts := cutAtPoints cs
  let step? : Option Int :=
    match parts with
    | [_, _] => some 1
    | [_, _, step] => number? step
    | _ => none
  match parts, step? with
  | a :: b :: _, some step =>
    match number? a, number? b with
    | some x, some y =>
      let width := if isPadded a || isPadded b then max a.length b.length else 0
      some ((numbers x y step).map (padded width))
    | _, _ =>
      match a, b with
      | [x], [y] =>
        if x.isAlpha && y.isAlpha then
          some ((numbers x.toNat y.toNat step).map fun n => [Char.ofNat n.toNat])
        else none
      | _, _ => none
  | _, _ => none

/-- The words that atoms stand for. -/
def expand : Nat → List Atom → List (List Atom)
  | 0, as => [as]
  | fuel + 1, as =>
    let before := as.takeWhile fun a => !isChar '\x7b' a
    match as.drop before.length with
    | [] => [as]
    | brace :: inside =>
      match choices 0 [] inside with
      | some (parts, rest) =>
        let found : Option (List (List Atom)) :=
          match parts with
          | [part] => ((text? part).bind range?).map fun ws => ws.map fun cs => cs.map Atom.char
          | parts => some (parts.flatMap (expand fuel))
        match found with
        | some words =>
          let behind := expand fuel rest
          words.flatMap fun w => behind.map fun r => before ++ w ++ r
        | none => (expand fuel inside).map fun r => before ++ brace :: r
      | none => (expand fuel inside).map fun r => before ++ brace :: r

/-- The words that a word stands for. -/
def words (w : Word) : List Word :=
  let as := ofWord w
  if as.any (isChar '\x7b') then (expand (as.length + 1) as).map toWord else [w]

end Brace

end Ensemble.Shell.Extended
