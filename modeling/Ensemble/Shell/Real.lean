import Ensemble.Shell.Numeral

/-!
# Ensemble.Shell.Real

**Real numbers** as they are read and rounded. A number is read exactly, in decimal or hexadecimal
digits, and then rounded to the nearest number of a binary format (`Binary`); what is too large is
infinite.
-/

/-! ### Fractions

**Fractions** as they are printed: a decimal fraction is rounded to the nearest binary one of 53
digits, and that one is written with so many decimal places. Both roundings go to the nearest
value, a half to the even neighbour.
-/

namespace Ensemble.Shell

/-- A fraction that is not negative. -/
structure Fraction where
  numerator : Nat
  denominator : Nat
deriving Repr

namespace Fraction

/-- The nearest whole number to a quotient; a half goes to the even neighbour. -/
def roundedQuotient (n d : Nat) : Nat :=
  let q := n / d
  let r := n % d
  if 2 * r < d then q else if d < 2 * r then q + 1 else q + q % 2

/-- The rounded quotient is off by half a unit at most. -/
theorem roundedQuotient_near (n : Nat) {d : Nat} (h : 0 < d) :
    2 * n ≤ 2 * (d * roundedQuotient n d) + d ∧ 2 * (d * roundedQuotient n d) ≤ 2 * n + d := by
  have hn := Nat.div_add_mod n d
  have hr := Nat.mod_lt n h
  have hs : d * (n / d + 1) = d * (n / d) + d := Nat.mul_succ d (n / d)
  unfold roundedQuotient
  simp only
  split
  · omega
  · split
    · omega
    · rcases Nat.mod_two_eq_zero_or_one (n / d) with he | he
      · rw [he, Nat.add_zero]
        omega
      · rw [he]
        omega

/-- A fraction times a power. -/
def scale (f : Fraction) (base : Nat) (exponent : Int) : Fraction :=
  if 0 ≤ exponent then ⟨f.numerator * base.pow exponent.toNat, f.denominator⟩
  else ⟨f.numerator, f.denominator * base.pow (-exponent).toNat⟩

/-- The whole number of units of a power that is nearest. -/
def units (f : Fraction) (base : Nat) (exponent : Int) : Nat :=
  let scaled := f.scale base (-exponent)
  roundedQuotient scaled.numerator scaled.denominator

/-- The exponent of the largest power that is not larger. The guess is one too large at most. -/
def exponent (f : Fraction) (base : Nat) : Int :=
  let digits (n : Nat) : Int := (Nat.toDigits base n).length
  let guess := digits f.numerator - digits f.denominator
  let scaled := f.scale base (-guess)
  if scaled.numerator < scaled.denominator then guess - 1 else guess

/-- The nearest binary fraction of 53 digits, of fewer where it would be too fine. -/
def toBinary (f : Fraction) : Fraction :=
  if f.numerator = 0 then ⟨0, 1⟩
  else
    let unit := max (f.exponent 2 - 52) (-1074)
    (⟨f.units 2 unit, 1⟩ : Fraction).scale 2 unit

/-- Digits with a point before the last `places` of them. -/
def pointed (n places : Nat) (alternate : Bool) : String :=
  let digits := toString n
  let cs := List.replicate (places + 1 - digits.length) '0' ++ digits.toList
  let whole := cs.take (cs.length - places)
  let part := cs.drop (cs.length - places)
  .ofList (whole ++ if part.isEmpty && !alternate then [] else '.' :: part)

/-- The fraction with so many places behind the point. -/
def fixed (f : Fraction) (places : Nat) (alternate : Bool) : String :=
  pointed (f.units 10 (-places)) places alternate

/-- The first digit with so many places behind the point, and the exponent that belongs to it. -/
def leading (f : Fraction) (places : Nat) : Nat × Int :=
  if f.numerator = 0 then (0, 0)
  else
    let e := f.exponent 10
    let n := f.units 10 (e - places)
    if n < Nat.pow 10 (places + 1) then (n, e) else (n / 10, e + 1)

/-- An exponent, by its sign and two digits at least. -/
def exponentText (e : Int) : String :=
  let digits := toString e.natAbs
  (if e < 0 then "e-" else "e+") ++ (if digits.length < 2 then "0" else "") ++ digits

/-- The fraction with one digit before the point, so many behind it, and an exponent. -/
def scientific (f : Fraction) (places : Nat) (alternate : Bool) : String :=
  let (n, e) := f.leading places
  pointed n places alternate ++ exponentText e

/-- Without the zeros at the end of the places behind the point. -/
def shorten (s : String) : String :=
  if s.toList.contains '.' then
    let cs := (s.toList.reverse.dropWhile (· == '0'))
    .ofList (cs.dropWhile (· == '.')).reverse
  else s

/-- The fraction with so many digits that count, by an exponent only if it is very large or small;
zeros at the end are left out. -/
def general (f : Fraction) (digits : Nat) (alternate : Bool) : String :=
  let places := digits - 1
  let (n, e) := f.leading places
  let trim (s : String) : String := if alternate then s else shorten s
  if e < -4 || digits ≤ e then trim (pointed n places alternate) ++ exponentText e
  else trim (f.fixed (places - e).toNat alternate)

end Fraction

end Ensemble.Shell

/-! ### Real numbers -/

namespace Ensemble.Shell

/-- A binary format: how many digits a number has, the exponent of the last digit of the smallest
one, the exponent that no number reaches, and how many digits stand before the point where numbers are
written hexadecimally. -/
structure Binary where
  digits : Nat
  least : Int
  limit : Nat
  leading : Nat
deriving Repr

namespace Binary

/-- Numbers of 64 bits. -/
def double : Binary := ⟨53, -1074, 1024, 1⟩

/-- Numbers of 80 bits. -/
def extended : Binary := ⟨64, -16445, 16384, 4⟩

end Binary

/-- A real number, or what stands for none. -/
inductive Real
  | finite (negative : Bool) (value : Fraction)
  | infinite (negative : Bool)
  | undefined (negative : Bool)
deriving Repr

namespace Real

def isNegative : Real → Bool
  | .finite n _ | .infinite n | .undefined n => n

/-- Digits of a base with a point somewhere: the digits as a number, how many stand behind the point,
and what follows; none if there is no digit. -/
def pointed? (base : Nat) (cs : List Char) : Option (Nat × Nat × List Char) :=
  let isDigit (c : Char) : Bool := decide (Numeral.digitValue c < base)
  let whole := cs.takeWhile isDigit
  let (part, rest) :=
    match cs.drop whole.length with
    | '.' :: more =>
      let part := more.takeWhile isDigit
      (part, more.drop part.length)
    | rest => ([], rest)
  if whole.isEmpty && part.isEmpty then none
  else some ((Numeral.digits base (whole ++ part)).1, part.length, rest)

/-- An exponent behind its mark, if there is one. -/
def exponent (mark : Char) (cs : List Char) : Int × List Char :=
  match cs with
  | c :: more =>
    let (down, digits) := Numeral.sign more
    if c.toLower == mark && digits.head?.any Char.isDigit then
      let (e, rest) := Numeral.digits 10 digits
      (if down then -e else e, rest)
    else (0, cs)
  | [] => (0, cs)

/-- No format has numbers whose exponents go beyond this. -/
def exponentLimit : Int := 20000

/-- A number times a power, where the exponent is cut at the limit. -/
def scaled (n base : Nat) (e : Int) : Fraction :=
  if n = 0 then ⟨0, 1⟩
  else
    let length : Int := (Nat.toDigits base n).length
    let e := Numeral.clamp (-exponentLimit - length) (exponentLimit - length) e
    (⟨n, 1⟩ : Fraction).scale base e

/-- Does a text begin with a word, whatever the case of its letters? -/
def afterWord? (word : String) (cs : List Char) : Option (List Char) :=
  if (cs.take word.length).map Char.toLower == word.toList then some (cs.drop word.length) else none

/-- What stands behind the word for what is no number. -/
def afterUndefined (cs : List Char) : List Char :=
  match cs with
  | '(' :: more =>
    let inside := more.takeWhile fun c => c.isAlphanum || c == '_'
    match more.drop inside.length with
    | ')' :: rest => rest
    | _ => cs
  | _ => cs

/-- The number at the beginning of a text without a sign, and what follows it. -/
def unsigned? (negative : Bool) (cs : List Char) : Option (Real × List Char) :=
  match afterWord? "infinity" cs <|> afterWord? "inf" cs with
  | some rest => some (.infinite negative, rest)
  | none =>
    match afterWord? "nan" cs with
    | some rest => some (.undefined negative, afterUndefined rest)
    | none =>
      let hexadecimal :=
        match cs with
        | '0' :: x :: digits => if x.toLower == 'x' then pointed? 16 digits else none
        | _ => none
      match hexadecimal with
      | some (n, places, rest) =>
        let (e, rest) := exponent 'p' rest
        some (.finite negative (scaled n 2 (e - 4 * places)), rest)
      | none => do
        let (n, places, rest) ← pointed? 10 cs
        let (e, rest) := exponent 'e' rest
        return (.finite negative (scaled n 10 (e - places)), rest)

/-- The number at the beginning of a text, and what follows it; none if there is no number. -/
def read? (s : String) : Option (Real × List Char) :=
  let (negative, cs) := Numeral.sign (s.toList.dropWhile Numeral.isSpace)
  unsigned? negative cs

/-- The nearest number of a format; and is the number too large, or too small to be exact? -/
def round (b : Binary) (r : Real) : Real × Bool :=
  match r with
  | .finite negative f =>
    if f.numerator = 0 then (.finite negative ⟨0, 1⟩, false)
    else
      let top := f.exponent 2 - (b.digits - 1 : Nat)
      let unit := max top b.least
      let n := f.units 2 unit
      let rounded := (⟨n, 1⟩ : Fraction).scale 2 unit
      if n != 0 && (b.limit : Int) ≤ rounded.exponent 2 then (.infinite negative, true)
      else
        let exact := rounded.numerator * f.denominator == f.numerator * rounded.denominator
        (.finite negative rounded, top < b.least && !exact)
  | r => (r, false)

end Real

namespace Fraction

/-- A fraction of a format by hexadecimal digits and an exponent of two; without a number of places
there are as many as it takes. -/
def hexadecimal (f : Fraction) (b : Binary) (places : Option Nat) (alternate : Bool) : String :=
  let width := (b.digits - b.leading + 3) / 4
  let bottom := b.least + (b.digits - b.leading : Nat)
  let e : Int := if f.numerator = 0 then 0 else max (f.exponent 2 - (b.leading - 1 : Nat)) bottom
  let kept : Nat := match places with | some p => min p width | none => width
  let n := f.units 2 (e - (4 * kept : Nat))
  let base := Nat.pow 16 kept
  let digits := Nat.toDigits 16 (n % base)
  let part := List.replicate (kept - digits.length) '0' ++ digits
  let part := if kept = 0 then [] else part
  let part :=
    match places with
    | some p => part ++ List.replicate (p - kept) '0'
    | none => (part.reverse.dropWhile (· == '0')).reverse
  .ofList (Nat.toDigits 16 (n / base)) ++ (if part.isEmpty && !alternate then "" else ".") ++
    .ofList part ++ (if e < 0 then "p-" else "p+") ++ toString e.natAbs

end Fraction

end Ensemble.Shell
