import Ensemble.Shell.Real

/-!
# Ensemble.Shell.Layout

**Laying out values** in formatted output: how a conversion of a format writes a number or a text, by
its flags, its width and its precision.
-/

namespace Ensemble.Shell

/-- How a conversion lays its value out. -/
structure Layout where
  left : Bool := false
  zeros : Bool := false
  plus : Bool := false
  space : Bool := false
  alternate : Bool := false
  width : Nat := 0
  precision : Option Nat := none
deriving Repr

namespace Layout

/-- The flags at the beginning of a conversion, and what follows them. -/
def flags : List Char → Layout → Layout × List Char
  | '-' :: cs, l => flags cs { l with left := true }
  | '+' :: cs, l => flags cs { l with plus := true }
  | ' ' :: cs, l => flags cs { l with space := true }
  | '#' :: cs, l => flags cs { l with alternate := true }
  | '0' :: cs, l => flags cs { l with zeros := true }
  | cs, l => (l, cs)

/-- A width, which turns to the left if it is negative. -/
def withWidth (l : Layout) (n : Int) : Layout :=
  { l with width := n.natAbs, left := l.left || decide (n < 0) }

/-- A precision, which does not count if it is negative. -/
def withPrecision (l : Layout) (n : Int) : Layout :=
  { l with precision := if n < 0 then none else some n.toNat }

/-- Fill a text up to the width. -/
def fill (l : Layout) (s : String) : String :=
  let blanks := String.ofList (List.replicate (l.width - s.length) ' ')
  if l.left then s ++ blanks else blanks ++ s

/-- No text is shorter than the width. -/
theorem width_le_length_fill (l : Layout) (s : String) : l.width ≤ (l.fill s).length := by
  unfold fill
  simp only
  split <;> simp [String.length_append] <;> omega

/-- A text, cut at the precision. -/
def text (l : Layout) (s : String) : String :=
  l.fill (match l.precision with | some n => .ofList (s.toList.take n) | none => s)

/-- Digits behind a sign or mark, with zeros between them up to the width if that is wanted. -/
def digits (l : Layout) (lead digits : String) : String :=
  if l.zeros && !l.left then
    lead ++ .ofList (List.replicate (l.width - lead.length - digits.length) '0') ++ digits
  else l.fill (lead ++ digits)

/-- A whole number behind its sign or mark; the precision is the least number of digits. -/
def whole (l : Layout) (lead digits : String) : String :=
  match l.precision with
  | some p =>
    let digits := if p = 0 ∧ digits = "0" then "" else digits
    l.fill (lead ++ .ofList (List.replicate (p - digits.length) '0') ++ digits)
  | none => l.digits lead digits

/-- The sign of a signed number. -/
def sign (l : Layout) (negative : Bool) : String :=
  if negative then "-" else if l.plus then "+" else if l.space then " " else ""

/-- A whole number with its sign. -/
def signed (l : Layout) (n : Int) : String :=
  l.whole (l.sign (n < 0)) (toString n.natAbs)

/-- A whole number without a sign, as the letter of its conversion says. -/
def unsigned (l : Layout) (c : Char) (n : Nat) : String :=
  let inBase (base : Nat) : String := .ofList (Nat.toDigits base n)
  match c with
  | 'o' =>
    let digits := inBase 8
    let enough := match l.precision with | some p => digits.length < p | none => false
    if l.alternate && digits != "0" && !enough then l.whole "" ("0" ++ digits)
    else if l.alternate && l.precision = some 0 then l.fill "0"
    else l.whole "" digits
  | 'x' => l.whole (if l.alternate && n != 0 then "0x" else "") (inBase 16)
  | 'X' => l.whole (if l.alternate && n != 0 then "0X" else "") (inBase 16).toUpper
  | _ => l.whole "" (inBase 10)

/-- A real number of a format, as the letter of its conversion says. -/
def real (l : Layout) (b : Binary) (c : Char) (r : Real) : String :=
  let upper (s : String) : String := if c.isUpper then s.toUpper else s
  let lead := l.sign r.isNegative
  match r with
  | .infinite _ => l.fill (lead ++ upper "inf")
  | .undefined _ => l.fill (lead ++ upper "nan")
  | .finite _ f =>
    let places := l.precision.getD 6
    match c.toLower with
    | 'f' => l.digits lead (f.fixed places l.alternate)
    | 'e' => l.digits lead (upper (f.scientific places l.alternate))
    | 'a' => l.digits (lead ++ upper "0x") (upper (f.hexadecimal b l.precision l.alternate))
    | _ => l.digits lead (upper (f.general (max places 1) l.alternate))

end Layout

end Ensemble.Shell
