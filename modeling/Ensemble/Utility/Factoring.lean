import Ensemble.Utility.Input
import Ensemble.Utility.Options
import Ensemble.Utility.Quotation

/-!
# Ensemble.Utility.Factoring

The **prime factors** of numbers: `factor`. Small factors are found by trial, and larger ones in a row of
numbers that repeats itself sooner for a factor than for the number.
-/

namespace Ensemble.Utility

namespace Factoring

/-- A power, as far as a modulus tells it from others. -/
def powerMod (modulus : Nat) : Nat → Nat → Nat → Nat
  | 0, _, _ => 1 % modulus
  | fuel + 1, base, exponent =>
    if exponent = 0 then 1 % modulus
    else
      let half := powerMod modulus fuel (base * base % modulus) (exponent / 2)
      if exponent % 2 = 1 then half * base % modulus else half

/-- The power of two in a number, and what is left of it. -/
def twosOf : Nat → Nat → Nat × Nat
  | 0, n => (0, n)
  | fuel + 1, n =>
    if n = 0 || n % 2 = 1 then (0, n)
    else
      let (k, rest) := twosOf fuel (n / 2)
      (k + 1, rest)

/-- Do the squares of a power come to the opposite of one? -/
def reachesOpposite (n : Nat) : Nat → Nat → Bool
  | 0, _ => false
  | k + 1, x => x = n - 1 || reachesOpposite n k (x * x % n)

/-- Does a base speak for an odd number being prime? -/
def isWitnessFree (n base : Nat) : Bool :=
  let (k, odd) := twosOf (n.log2 + 1) (n - 1)
  let x := powerMod n (n.log2 + 1) (base % n) odd
  base % n = 0 || x = 1 || reachesOpposite n k x

/-- The bases that are asked. -/
def bases : List Nat := [2, 3, 5, 7, 11, 13, 17, 19, 23, 29, 31, 37, 41, 43, 47, 53]

def isPrime (n : Nat) : Bool :=
  if n < 2 then false
  else if n % 2 = 0 then n = 2
  else bases.all (isWitnessFree n)

/-- Take a factor out of a number as often as it is in there. -/
def takeOut (p : Nat) : Nat → Nat → List Nat × Nat
  | 0, n => ([], n)
  | fuel + 1, n =>
    if n % p = 0 then
      let (ps, rest) := takeOut p fuel (n / p)
      (p :: ps, rest)
    else ([], n)

/-- The factors below a bound, and what is left. -/
def smallFactors : Nat → Nat → Nat → List Nat × Nat
  | 0, _, n => ([], n)
  | fuel + 1, p, n =>
    if n < p * p then (if n = 1 then ([], 1) else ([n], 1))
    else
      let (ps, n) := takeOut p (n.log2 + 1) n
      let (more, rest) := smallFactors fuel (if p = 2 then 3 else p + 2) n
      (ps ++ more, rest)

/-- A divisor that is found where a row of squares plus a step repeats itself; the number itself if none
is found so. -/
def repeatedDivisor (n step : Nat) : Nat → Nat → Nat → Nat
  | 0, _, _ => n
  | fuel + 1, slow, fast =>
    let next (x : Nat) : Nat := (x * x + step) % n
    let slow := next slow
    let fast := next (next fast)
    let d := Nat.gcd (if slow < fast then fast - slow else slow - fast) n
    if d = 1 then repeatedDivisor n step fuel slow fast else d

/-- The factors of a number without small factors. -/
def largeFactors : Nat → Nat → Nat → List Nat
  | 0, _, n => [n]
  | fuel + 1, step, n =>
    if n < 2 then []
    else if isPrime n then [n]
    else
      let d := repeatedDivisor n step 1000000 2 2
      if d = n then largeFactors fuel (step + 1) n
      else largeFactors fuel step d ++ largeFactors fuel step (n / d)

/-- The prime factors of a number, the smallest first. -/
def factorsOf (n : Nat) : List Nat :=
  if n < 2 then []
  else
    let (small, rest) := smallFactors 5000 2 n
    small ++ (largeFactors 200 1 rest).mergeSort (· ≤ ·)

/-- Factors, each once with how often it is there. -/
def powers : List Nat → List (Nat × Nat)
  | [] => []
  | p :: ps =>
    match powers ps with
    | (q, k) :: more => if p = q then (q, k + 1) :: more else (p, 1) :: (q, k) :: more
    | [] => [(p, 1)]

/-- Tell the factors of the number that a word is. -/
def tell (asPowers : Bool) (word : String) : Tool Nat := do
  let cs := word.toList.dropWhile (· == ' ')
  let digits := match cs with | '+' :: cs => cs | cs => cs
  if digits.isEmpty || !digits.all Char.isDigit then
    complain (quoted word ++ " is not a valid positive integer")
    return 1
  let n := (Shell.Numeral.digits 10 digits).1
  let shown :=
    if asPowers then
      (powers (factorsOf n)).map fun (p, k) => toString p ++ if k = 1 then "" else "^" ++ toString k
    else (factorsOf n).map toString
  sayLine (toString n ++ ":" ++ String.join (shown.map (" " ++ ·)))
  return 0

end Factoring

/-- The words of a text between blanks. -/
def blankWords (text : String) : List String :=
  let isGap (c : Char) : Bool := c == ' ' || c == '\t' || c == '\n'
  let cs := text.toList.map fun c => if isGap c then '\n' else c
  let (first, more) := Text.cutBetween '\n' cs
  ((first :: more).filter (!·.isEmpty)).map String.ofList

def factor (args : List String) : Tool Nat := do
  let (chosen, operands) ←
    ({ letters := "h", words := [("exponents", "h")] } : Choices).given args
  let asPowers := chosen.has "h"
  if !operands.isEmpty then forEach operands (Factoring.tell asPowers)
  else
    match ← contentOf "-" with
    | .text s => forEach (blankWords s) (Factoring.tell asPowers)
    | .notOpened e | .notRead e => giveUp 1 ("error reading input: " ++ e.message)

end Ensemble.Utility
