/-!
# Ensemble.Shell.Numeral

**Numerals**: the whole numbers that words stand for. A numeral is read from the beginning of a text
as far as it goes; what is wrong with the rest is for the reader to say. Bases 8 and 16 have their
marks, `0` and `0x`.
-/

namespace Ensemble.Shell

/-- A number at the beginning of a text, and what follows it. -/
structure Numeral where
  value : Int
  rest : List Char
deriving Repr

namespace Numeral

/-- The characters that may stand before a number. -/
def isSpace (c : Char) : Bool :=
  c == ' ' || (0x9 ≤ c.toNat && c.toNat ≤ 0xD)

/-- The value of a digit, in bases up to 36. -/
def digitValue (c : Char) : Nat :=
  if c.isDigit then c.toNat - '0'.toNat
  else if c.isAlpha then c.toLower.toNat - 'a'.toNat + 10
  else 36

/-- The digits of a base at the beginning, as a number, and what follows them. -/
def digits (base : Nat) (cs : List Char) : Nat × List Char :=
  let ds := cs.takeWhile fun c => decide (digitValue c < base)
  (ds.foldl (fun n c => n * base + digitValue c) 0, cs.drop ds.length)

/-- A sign at the beginning, if there is one: is it a minus? -/
def sign : List Char → Bool × List Char
  | '-' :: cs => (true, cs)
  | '+' :: cs => (false, cs)
  | cs => (false, cs)

/-- A number without a sign whose mark tells its base. -/
def marked (cs : List Char) : Nat × List Char :=
  match cs with
  | '0' :: x :: d :: ds =>
    if (x = 'x' ∨ x = 'X') ∧ digitValue d < 16 then digits 16 (d :: ds) else digits 8 cs
  | '0' :: _ => digits 8 cs
  | cs => digits 10 cs

/-- The number at the beginning of a text, in a base, or in base 0 in the one that its mark tells;
none if there is no digit. -/
def read? (base : Nat) (cs : List Char) : Option Numeral :=
  let (negative, cs) := sign (cs.dropWhile isSpace)
  let (n, rest) := if base = 0 then marked cs else digits base cs
  if rest.length = cs.length then none else some ⟨if negative then -n else n, rest⟩

/-- The greatest and the least number of 64 bits with a sign. -/
def greatest : Int := 9223372036854775807

def least : Int := -9223372036854775808

/-- The greatest number of 32 bits with a sign. -/
def greatestShort : Int := 2147483647

/-- The nearest number between two bounds. -/
def clamp (low high n : Int) : Int :=
  max low (min high n)

theorem clamp_mem {low high : Int} (h : low ≤ high) (n : Int) :
    low ≤ clamp low high n ∧ clamp low high n ≤ high := by
  unfold clamp
  omega

/-- The number that a whole text stands for, in a base, with blanks around it; an empty text stands
for 0 in base 0. -/
def whole? (base : Nat) (s : String) : Option Int :=
  let cs := s.toList
  let (n, rest) : Option Int × List Char :=
    match read? base cs with
    | some n => (some n.value, n.rest)
    | none => (if base = 0 then some 0 else none, cs)
  match n with
  | some n =>
    if rest.all isSpace && least ≤ n && n ≤ greatest then some n else none
  | none => none

end Numeral

end Ensemble.Shell
