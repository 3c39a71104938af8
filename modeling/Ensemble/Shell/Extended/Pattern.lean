import Ensemble.Shell.Pattern

/-!
# Ensemble.Shell.Extended.Pattern

**Patterns that can hold groups**: between parentheses stand other patterns, of which one has to match
once, at most once, any number of times, at least once, or not at all. A pattern is read as a row of
parts (`Part.ofChars`), and a part tells where in a text it can end if it begins somewhere (`Part.ends`).
-/

namespace Ensemble.Shell.Extended

/-- How often a group matches. -/
inductive Count
  | once
  | perhaps
  | anyTimes
  | someTimes
  | never
deriving DecidableEq, Repr

/-- A part of a pattern. -/
inductive Part
  | char (c : Char)
  | one
  | many
  /-- What stands behind an opening bracket, up to the closing one. -/
  | bracket (inside : List Char)
  | group (count : Count) (choices : List (List Part))

namespace Part

/-- How often a group behind this matches. -/
def count? : Char → Option Count
  | '@' => some .once
  | '?' => some .perhaps
  | '*' => some .anyTimes
  | '+' => some .someTimes
  | '!' => some .never
  | _ => none

/-- Is a character in a bracket, and what follows it? -/
def inBracket (c : Char) (cs : List Char) : Option (Bool × List Char) :=
  match cs with
  | '^' :: cs => Pattern.inBracket c ('!' :: cs)
  | cs => Pattern.inBracket c cs

/-- The parts of a pattern, up to what ends a choice if they stand in a group. -/
def ofChars (groups : Bool) : Nat → Bool → List Char → List Part × List Char
  | 0, _, cs => ([], cs)
  | _, _, [] => ([], [])
  | fuel + 1, inGroup, c :: cs =>
    let go (p : Part) (rest : List Char) : List Part × List Char :=
      let (ps, rest) := ofChars groups fuel inGroup rest
      (p :: ps, rest)
    let asGroup : Option (List Part × List Char) :=
      match count? c, cs with
      | some count, '(' :: inside =>
        if groups then
          let (choices, rest) := choicesOf fuel inside
          match rest with
          | ')' :: rest => some (go (.group count choices) rest)
          | _ => none
        else none
      | _, _ => none
    match asGroup with
    | some found => found
    | none =>
      if inGroup && (c == '|' || c == ')') then ([], c :: cs)
      else
        match c with
        | '\x5c' =>
          match cs with
          | d :: rest => go (.char d) rest
          | [] => go (.char c) []
        | '?' => go .one cs
        | '*' => go .many cs
        | '[' =>
          match inBracket 'a' cs with
          | some (_, rest) => go (.bracket (cs.take (cs.length - rest.length))) rest
          | none => go (.char '[') cs
        | c => go (.char c) cs
where
  /-- The choices of a group. -/
  choicesOf : Nat → List Char → List (List Part) × List Char
    | 0, cs => ([], cs)
    | fuel + 1, cs =>
      let (ps, rest) := ofChars groups fuel true cs
      match rest with
      | '|' :: rest =>
        let (more, rest) := choicesOf fuel rest
        (ps :: more, rest)
      | rest => ([ps], rest)

/-- How a text is looked at. -/
structure Look where
  text : Array Char
  ignoresCase : Bool := false

def same (l : Look) (a b : Char) : Bool :=
  a == b || (l.ignoresCase && a.toLower == b.toLower)

/-- Places up to the end of the text, none of them twice. -/
def distinct (l : Look) (places : List Nat) : List Nat :=
  let marks := places.foldl (fun ms p => ms.setIfInBounds p true) (Array.replicate (l.text.size + 1) false)
  (List.range (l.text.size + 1)).filter fun p => (marks[p]?).getD false

/-- All places that can be come to by steps, as many as one likes. -/
def closure (l : Look) (step : Nat → List Nat) : Nat → List Nat → List Nat → List Nat
  | 0, known, _ => known
  | _, known, [] => known
  | fuel + 1, known, fresh =>
    let next := (distinct l (fresh.flatMap step)).filter fun p => !(known.contains p)
    closure l step fuel (known ++ next) next

mutual

/-- Where a part can end that begins at a place. -/
def ends (l : Look) : Part → Nat → List Nat
  | .char c, i =>
    match l.text[i]? with
    | some d => if same l c d then [i + 1] else []
    | none => []
  | .one, i => if i < l.text.size then [i + 1] else []
  | .many, i => (List.range (l.text.size + 1 - i)).map (i + ·)
  | .bracket inside, i =>
    match l.text[i]? with
    | some d =>
      let isIn (c : Char) : Bool := ((inBracket c inside).map (·.1)).getD false
      if isIn d || (l.ignoresCase && (isIn d.toLower || isIn d.toUpper)) then [i + 1] else []
    | none => []
  | .group count choices, i =>
    match count with
    | .once => distinct l (choiceEnds l choices i)
    | .perhaps => distinct l (i :: choiceEnds l choices i)
    | .anyTimes => closure l (choiceEnds l choices) (l.text.size + 1) [i] [i]
    | .someTimes =>
      let first := distinct l (choiceEnds l choices i)
      closure l (choiceEnds l choices) (l.text.size + 1) first first
    | .never =>
      let found := choiceEnds l choices i
      ((List.range (l.text.size + 1 - i)).map (i + ·)).filter fun p => !(found.contains p)

/-- Where parts can end that begin at one of these places. -/
def rowEnds (l : Look) : List Part → List Nat → List Nat
  | [], places => places
  | p :: ps, places => rowEnds l ps (distinct l (places.flatMap fun i => ends l p i))

/-- Where one of the choices can end. -/
def choiceEnds (l : Look) : List (List Part) → Nat → List Nat
  | [], _ => []
  | c :: cs, i => rowEnds l c [i] ++ choiceEnds l cs i

end

end Part

/-- A pattern and how it is matched. -/
structure Glob where
  parts : List Part
  ignoresCase : Bool := false

namespace Glob

def ofChars (groups ignoresCase : Bool) (cs : List Char) : Glob :=
  ⟨(Part.ofChars groups (2 * cs.length + 2) false cs).1, ignoresCase⟩

/-- Where in a text the pattern can end if it begins at a place. -/
def ends (g : Glob) (text : Array Char) (place : Nat) : List Nat :=
  Part.rowEnds ⟨text, g.ignoresCase⟩ g.parts [place]

/-- Does the pattern match all of a text? -/
def isMatch (g : Glob) (cs : List Char) : Bool :=
  (g.ends cs.toArray 0).contains cs.length

/-- What is left after a cut. -/
def cut (g : Glob) (how : Cut) (cs : List Char) : List Char :=
  let text := cs.toArray
  let lengths : List Nat :=
    if how.atEnd then
      (List.range (cs.length + 1)).filter fun n => (g.ends text (cs.length - n)).contains cs.length
    else g.ends text 0
  let best : Option Nat :=
    if how.longest then lengths.foldl (fun found n => some (max n (found.getD 0))) none
    else lengths.foldl (fun found n => some (match found with | some m => min m n | none => n)) none
  match best with
  | none => cs
  | some n => if how.atEnd then cs.take (cs.length - n) else cs.drop n

/-- The greatest place in a list. -/
def furthest? (places : List Nat) : Option Nat :=
  places.foldl (fun found n => some (max n (found.getD 0))) none

/-- What matches is put in another form: from a place on, everywhere or once. -/
def replaceFrom (g : Glob) (text : Array Char) (all : Bool) (replaced : List Char → List Char) :
    Nat → Nat → List Char
  | 0, i => (text.extract i text.size).toList
  | fuel + 1, i =>
    if text.size ≤ i then []
    else
      let found := (furthest? (g.ends text i)).filter fun j => i < j
      match found with
      | some j =>
        let inside := replaced (text.extract i j).toList
        inside ++ if all then replaceFrom g text all replaced fuel j else (text.extract j text.size).toList
      | none => (text.extract i (i + 1)).toList ++ replaceFrom g text all replaced fuel (i + 1)

/-- Replace what matches. -/
def replace (g : Glob) (all : Bool) (anchor : Anchor) (replaced : List Char → List Char)
    (cs : List Char) : List Char :=
  let text := cs.toArray
  match anchor with
  | .anywhere =>
    if cs.isEmpty then if (g.ends text 0).contains 0 && !g.parts.isEmpty then replaced [] else []
    else g.replaceFrom text all replaced (cs.length + 1) 0
  | .start =>
    match furthest? (g.ends text 0) with
    | some n => replaced (cs.take n) ++ cs.drop n
    | none => cs
  | .finish =>
    match (List.range (cs.length + 1)).find? fun i => (g.ends text i).contains cs.length with
    | some i => cs.take i ++ replaced (cs.drop i)
    | none => cs

end Glob

end Ensemble.Shell.Extended
