import Ensemble.Shell.Real
import Ensemble.Utility.Quotation
import Ensemble.Utility.Options

/-!
# Ensemble.Utility.Amount

**Amounts**: whole numbers with a unit behind them, as options take them, and durations.
-/

namespace Ensemble.Utility

open Shell (Numeral)

/-- A text that should be an amount. -/
inductive Amount
  | given (n : Nat)
  /-- No machine can count so far. -/
  | tooLarge
  | none
deriving DecidableEq, Repr

/-- What a unit is worth. -/
def unitOf? (unit : String) : Option Nat :=
  let step (c : Char) : Option Nat :=
    ["K", "M", "G", "T", "P", "E"].findIdx? (· == c.toUpper.toString)
  match unit.toList with
  | [] => some 1
  | ['b'] => some 512
  | ['k'] | ['k', 'i', 'B'] => some 1024
  | ['k', 'B'] => some 1000
  | c :: rest =>
    if c.isUpper || c == 'k' || c == 'm' then
      (step c).bind fun n =>
        match rest with
        | [] | ['i', 'B'] => some (Nat.pow 1024 (n + 1))
        | ['B'] => some (Nat.pow 1000 (n + 1))
        | _ => none
    else none

/-- The amount that a text stands for. A unit alone stands for one of it. -/
def Amount.ofString (s : String) : Amount :=
  let cs := s.toList.dropWhile Numeral.isSpace
  let cs := match cs with | '+' :: cs => cs | cs => cs
  let digits := cs.takeWhile Char.isDigit
  let unit := String.ofList (cs.drop digits.length)
  if digits.isEmpty && (s = "" || unit != s) then .none
  else
    match unitOf? unit with
    | Option.none => .none
    | some u =>
      let n := (if digits.isEmpty then 1 else (Numeral.digits 10 digits).1) * u
      if UInt64.size ≤ n then .tooLarge else .given n

/-- An amount that an option is given, or else the end of the utility. -/
def amountOr (status : Nat) (what s : String) : Tool Nat := do
  match Amount.ofString s with
  | .given n => return n
  | .tooLarge =>
    giveUp status ("invalid " ++ what ++ ": " ++ quoted s ++
      ": Value too large for defined data type")
  | .none => giveUp status ("invalid " ++ what ++ ": " ++ quoted s)

/-- A time that never ends. -/
def endless : Nat := 100000000 * 86400 * 1000000

/-- The number of a duration with an optional unit, in microseconds. -/
def duration? (s : String) : Option Nat :=
  let unit? (rest : List Char) : Option Nat :=
    match rest with
    | [] | ['s'] => some 1
    | ['m'] => some 60
    | ['h'] => some 3600
    | ['d'] => some 86400
    | _ => none
  match Shell.Real.read? s with
  | some (.finite negative f, rest) =>
    if negative && f.numerator != 0 then none
    else (unit? rest).map fun unit =>
      min endless ((f.numerator * unit * 1000000 + f.denominator - 1) / f.denominator)
  | some (.infinite false, rest) => (unit? rest).map fun _ => endless
  | _ => none

end Ensemble.Utility
