import Ensemble.Shell.Syntax

/-!
# Ensemble.Shell.Pattern

**Patterns**: `*` matches any characters, `?` any one, brackets one of a set, and a backslash takes its
meaning from the character behind it. `isMatch` decides; what a pattern takes off a value at either
end is found by trying the cuts in order.
-/

namespace Ensemble.Shell

/-- The classes of characters that brackets can name. -/
def charClass? (name : String) : Option (Char → Bool) :=
  match name with
  | "alpha" => some Char.isAlpha
  | "digit" => some Char.isDigit
  | "alnum" => some Char.isAlphanum
  | "upper" => some Char.isUpper
  | "lower" => some Char.isLower
  | "space" => some fun c => c == ' ' || (0x9 ≤ c.toNat && c.toNat ≤ 0xD)
  | "blank" => some fun c => c == ' ' || c == '\t'
  | "punct" => some fun c => 0x21 ≤ c.toNat && c.toNat ≤ 0x7E && !c.isAlphanum
  | "xdigit" => some fun c => c.isDigit || ('a' ≤ c.toLower && c.toLower ≤ 'f')
  | "print" => some fun c => 0x20 ≤ c.toNat && c.toNat ≤ 0x7E
  | "graph" => some fun c => 0x21 ≤ c.toNat && c.toNat ≤ 0x7E
  | "cntrl" => some fun c => c.toNat < 0x20 || c.toNat == 0x7F
  | _ => none

namespace Pattern

/-- The pattern that matches a text and nothing else. -/
def protect (cs : List Char) : List Char :=
  cs.flatMap fun c => ['\x5c', c]

/-- A class in a bracket, behind its `[`: is the character in it, and what follows it? -/
def classAt? (c : Char) (cs : List Char) : Option (Bool × List Char) :=
  match cs with
  | ':' :: rest =>
    let name := rest.takeWhile Char.isAlpha
    match rest.drop name.length with
    | ':' :: ']' :: rest => (charClass? (.ofList name)).map fun p => (p c, rest)
    | _ => none
  | _ => none

/-- The rest of a bracket: is the character in it, and what follows it? A bracket that is not
closed is none. -/
def bracket (c : Char) : Nat → Bool → List Char → Option (Bool × List Char)
  | 0, _, _ => none
  | _, _, [] => none
  | fuel + 1, found, p :: ps =>
    let goOn (found : Bool) (rest : List Char) : Option (Bool × List Char) :=
      match rest with
      | ']' :: rest => some (found, rest)
      | rest => bracket c fuel found rest
    match if p == '[' then classAt? c ps else none with
    | some (isIn, rest) => goOn (found || isIn) rest
    | none =>
      let (low, ps) :=
        match p, ps with
        | '\x5c', q :: ps => (q, ps)
        | p, ps => (p, ps)
      match ps with
      | '-' :: high :: rest =>
        if high == ']' then goOn (found || c == low) ps
        else
          let (high, rest) :=
            match high, rest with
            | '\x5c', q :: rest => (q, rest)
            | high, rest => (high, rest)
          goOn (found || (low ≤ c && c ≤ high)) rest
      | ps => goOn (found || c == low) ps

/-- A bracket, after the opening one. -/
def inBracket (c : Char) (ps : List Char) : Option (Bool × List Char) :=
  match ps with
  | '!' :: ps => (bracket c (ps.length + 1) false ps).map fun (found, rest) => (!found, rest)
  | ps => bracket c (ps.length + 1) false ps

/-- Does the pattern match all of the characters? -/
def matchFrom : Nat → List Char → List Char → Bool
  | 0, _, _ => false
  | _, [], cs => cs.isEmpty
  | fuel + 1, p :: ps, cs =>
    let literally (p : Char) (ps : List Char) : Bool :=
      match cs with
      | c :: cs => c == p && matchFrom fuel ps cs
      | [] => false
    match p with
    | '\x5c' =>
      match ps with
      | q :: ps => literally q ps
      | [] => literally '\x5c' []
    | '*' =>
      let ps := ps.dropWhile (· == '*')
      if ps.isEmpty then true
      else
        match cs with
        | [] => matchFrom fuel ps []
        | _ :: rest => matchFrom fuel ps cs || matchFrom fuel ('*' :: ps) rest
    | '?' =>
      match cs with
      | _ :: cs => matchFrom fuel ps cs
      | [] => false
    | '[' =>
      match cs with
      | [] => false
      | c :: rest =>
        match inBracket c ps with
        | some (found, ps) => found && matchFrom fuel ps rest
        | none => literally '[' ps
    | p => literally p ps

/-- Does the pattern match all of the characters? -/
def isMatch (pattern cs : List Char) : Bool :=
  matchFrom (pattern.length + cs.length + 1) pattern cs

/-- A text is matched by the pattern made of it. -/
theorem matchFrom_protect (cs : List Char) (n : Nat) (h : cs.length < n) :
    matchFrom n (protect cs) cs = true := by
  induction cs generalizing n with
  | nil =>
      cases n with
      | zero => simp at h
      | succ n => rfl
  | cons c cs ih =>
      cases n with
      | zero => simp at h
      | succ n =>
          have := ih n (by simp at h; omega)
          simpa [protect, matchFrom] using this

/-- What is left after a cut. -/
def cut (how : Cut) (pattern cs : List Char) : List Char :=
  let lengths := List.range (cs.length + 1)
  let lengths := if how.longest then lengths.reverse else lengths
  let (piece, left) : (Nat → List Char) × (Nat → List Char) :=
    if how.atEnd then (fun n => cs.drop (cs.length - n), fun n => cs.take (cs.length - n))
    else (cs.take, cs.drop)
  match lengths.find? fun n => isMatch pattern (piece n) with
  | some n => left n
  | none => cs

/-! ### Paths -/

/-- Is a bracket closed before the next slash? -/
def isClosed : Nat → List Char → Bool
  | 0, _ => false
  | fuel + 1, cs =>
    let cs := match cs with | '\x5c' :: rest => rest | cs => cs
    match cs with
    | [] | '/' :: _ => false
    | _ :: ']' :: _ => true
    | _ :: rest => isClosed fuel rest

/-- Does anything in the pattern stand for more than itself? -/
def isProper : Nat → List Char → Bool
  | 0, _ => false
  | _, [] => false
  | fuel + 1, c :: cs =>
    match c with
    | '\x5c' => isProper fuel (cs.drop 1)
    | '*' | '?' => true
    | '[' =>
      let inside := match cs with | '!' :: rest => rest | cs => cs
      isClosed (inside.length + 1) inside || isProper fuel cs
    | _ => isProper fuel cs

/-- The text of a pattern in which nothing stands for more than itself. -/
def plainText : List Char → List Char
  | '\x5c' :: c :: cs => c :: plainText cs
  | c :: cs => c :: plainText cs
  | [] => []

/-- Cut a pattern at its slashes, which may be protected. -/
def pathParts : List Char → List (List Char)
  | [] => [[]]
  | '\x5c' :: '/' :: cs => [] :: pathParts cs
  | '/' :: cs => [] :: pathParts cs
  | '\x5c' :: c :: cs =>
    match pathParts cs with
    | part :: parts => ('\x5c' :: c :: part) :: parts
    | [] => [['\x5c', c]]
  | c :: cs =>
    match pathParts cs with
    | part :: parts => (c :: part) :: parts
    | [] => [[c]]

end Pattern

end Ensemble.Shell
