import Ensemble.Shell.Real
import Ensemble.Text.Lines

/-!
# Ensemble.Utility.Ordering

**Orders of texts**: as numbers in their several spellings, as months, and as versions. A text is
compared by what it begins with, and what begins with no number counts as zero, or as less than all
numbers.
-/

namespace Ensemble.Utility

open Shell (Numeral Fraction)

/-- A decimal number: a whole number, and how many of its digits stand behind the point. -/
structure Decimal where
  value : Int
  places : Nat
deriving Repr

namespace Decimal

/-- Is one number less than another, or the same, or greater? -/
def compare (a b : Decimal) : Ordering :=
  Ord.compare (a.value * (Nat.pow 10 b.places : Nat)) (b.value * (Nat.pow 10 a.places : Nat))

/-- The number at the beginning of a text, and what follows it. -/
def read (cs : List Char) : Decimal × List Char :=
  let cs := cs.dropWhile fun c => c == ' ' || c == '\t' || c == '\n'
  let (negative, cs) := match cs with | '-' :: cs => (true, cs) | cs => (false, cs)
  let whole := cs.takeWhile Char.isDigit
  let (part, rest) :=
    match cs.drop whole.length with
    | '.' :: rest =>
      let part := rest.takeWhile Char.isDigit
      (part, rest.drop part.length)
    | rest => ([], rest)
  let n : Int := (Numeral.digits 10 (whole ++ part)).1
  (⟨if negative then -n else n, part.length⟩, rest)

end Decimal

/-- The order of texts by the numbers that they begin with. -/
def compareNumbers (a b : List Char) : Ordering :=
  (Decimal.read a).1.compare (Decimal.read b).1

/-- The order of the units of numbers for people. -/
def unitOrder (n : Decimal) (rest : List Char) : Int :=
  let order : Int :=
    match rest with
    | c :: _ =>
      match ("KMGTPEZYRQ".toList.findIdx? (· == c)), c with
      | some i, _ => i + 1
      | none, 'k' => 1
      | none, _ => 0
    | [] => 0
  if n.value = 0 then 0 else if n.value < 0 then -order else order

/-- The order of texts by numbers with units: first by the unit, and then by the number. -/
def compareAmounts (a b : List Char) : Ordering :=
  let (n, restA) := Decimal.read a
  let (m, restB) := Decimal.read b
  (Ord.compare (unitOrder n restA) (unitOrder m restB)).then (n.compare m)

/-- Where a real number stands among what is no number, and the number itself. -/
def realRank (cs : List Char) : Nat × Option (Bool × Fraction) :=
  match Shell.Real.read? (.ofList cs) with
  | none => (0, none)
  | some (.undefined _, _) => (1, none)
  | some (.infinite true, _) => (2, none)
  | some (.infinite false, _) => (4, none)
  | some (.finite negative f, _) => (3, some (negative, f))

/-- The order of texts by the real numbers that they begin with. -/
def compareReals (a b : List Char) : Ordering :=
  match realRank a, realRank b with
  | (_, some (na, f)), (_, some (nb, g)) =>
    let signed (negative : Bool) (n : Nat) : Int := if negative then -n else n
    Ord.compare (signed na (f.numerator * g.denominator)) (signed nb (g.numerator * f.denominator))
  | (i, _), (j, _) => Ord.compare i j

/-- The number of the month that a text begins with, or 0. -/
def monthOf (cs : List Char) : Nat :=
  let word := String.ofList (((cs.dropWhile fun c => c == ' ' || c == '\t').take 3).map Char.toUpper)
  let months := ["JAN", "FEB", "MAR", "APR", "MAY", "JUN", "JUL", "AUG", "SEP", "OCT", "NOV", "DEC"]
  match months.findIdx? (· == word) with
  | some n => n + 1
  | none => 0

/-! ### Versions -/

/-- Where a character stands in a version: a tilde before everything, then the end, letters, and all
others. -/
def versionRank (c : Option Char) : Int :=
  match c with
  | none => -1
  | some '~' => -2
  | some c => if c.isDigit then 0 else if c.isAlpha then c.toNat else c.toNat + 256

/-- The order of parts without digits, up to the first digit of each. -/
def compareWords : Nat → List Char → List Char → Ordering × List Char × List Char
  | 0, a, b => (.eq, a, b)
  | fuel + 1, a, b =>
    let isWord (cs : List Char) : Bool := cs.head?.any fun c => !c.isDigit
    if isWord a || isWord b then
      match Ord.compare (versionRank a.head?) (versionRank b.head?) with
      | .eq => compareWords fuel (a.drop 1) (b.drop 1)
      | o => (o, a, b)
    else (.eq, a, b)

/-- The order of versions without the ends of file names. -/
def compareParts : Nat → List Char → List Char → Ordering
  | 0, _, _ => .eq
  | fuel + 1, a, b =>
    if a.isEmpty && b.isEmpty then .eq
    else
      let (o, a, b) := compareWords (a.length + b.length + 1) a b
      let (n, restA) := Numeral.digits 10 a
      let (m, restB) := Numeral.digits 10 b
      o.then ((Ord.compare n m).then (compareParts fuel restA restB))

/-- A file name without its ends: a point, a letter and more of these, as often as there are. -/
def withoutEnds : Nat → List Char → List Char
  | 0, cs => cs
  | fuel + 1, cs =>
    let isTail (c : Char) : Bool := c.isAlphanum || c == '~'
    let r := cs.reverse
    let tail := r.takeWhile isTail
    match r.drop tail.length, tail.getLast? with
    | '.' :: before, some c =>
      if (c.isAlpha || c == '~') && !before.isEmpty then withoutEnds fuel before.reverse else cs
    | _, _ => cs

/-- The order of texts as versions. -/
def compareVersions (a b : List Char) : Ordering :=
  let rank (cs : List Char) : Nat :=
    match cs with
    | [] => 0
    | ['.'] => 1
    | ['.', '.'] => 2
    | '.' :: _ => 3
    | _ => 4
  let size := a.length + b.length + 1
  (Ord.compare (rank a) (rank b)).then
    ((compareParts size (withoutEnds size a) (withoutEnds size b)).then (compareParts size a b))

/-- The order of texts by their characters. -/
def compareTexts : List Char → List Char → Ordering
  | [], [] => .eq
  | [], _ :: _ => .lt
  | _ :: _, [] => .gt
  | a :: as, b :: bs => (Ord.compare a.toNat b.toNat).then (compareTexts as bs)

/-- Only equal texts are at one place in the order. -/
theorem compareTexts_eq_iff {a b : List Char} : compareTexts a b = .eq ↔ a = b := by
  induction a generalizing b with
  | nil => cases b <;> simp [compareTexts]
  | cons c cs ih =>
      cases b with
      | nil => simp [compareTexts]
      | cons d ds =>
          simp [compareTexts, Ordering.then_eq_eq, ih, Char.toNat_inj]

end Ensemble.Utility
