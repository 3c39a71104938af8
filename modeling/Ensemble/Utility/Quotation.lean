import Ensemble.Shell.Numeral

/-!
# Ensemble.Utility.Quotation

**Names in messages.** A name is told between single quotes, so that a shell would read it back:
what is not printable stands in a part of its own, by its escapes, and a name with a single quote
stands between double quotes if nothing else speaks against it (`shellQuoted`). Words that are no names
are quoted in a simpler way (`quoted`).
-/

namespace Ensemble.Utility

/-- The escape of a character that has a short one. -/
def shortEscape? (c : Char) : Option Char :=
  match c with
  | '\x07' => some 'a'
  | '\x08' => some 'b'
  | '\x0c' => some 'f'
  | '\n' => some 'n'
  | '\r' => some 'r'
  | '\t' => some 't'
  | '\x0b' => some 'v'
  | _ => none

def isPrintable (c : Char) : Bool :=
  0x20 ≤ c.toNat && c.toNat ≤ 0x7E

/-- The escape of a character that is not printable. -/
def escaped (c : Char) : String :=
  match shortEscape? c with
  | some e => "\\" ++ e.toString
  | none =>
    let digits := Nat.toDigits 8 c.toNat
    "\\" ++ .ofList (List.replicate (3 - digits.length) '0' ++ digits)

/-- A word between single quotes. -/
def quoted (s : String) : String :=
  let text (c : Char) : String :=
    if c == '\x27' then "\\'" else if c == '\x5c' then "\\\\"
    else if isPrintable c then c.toString else escaped c
  "'" ++ String.join (s.toList.map text) ++ "'"

/-- May a character stand between double quotes without being changed? -/
def fitsDoubleQuotes (c : Char) (isFirst : Bool) : Bool :=
  c.isAlphanum || ['%', '+', ',', '-', '.', '/', ':', ']', '_', '@', ' ', '\x27'].contains c ||
    (isFirst && (c == '#' || c == '~'))

/-- The characters of a name behind its opening quote; is a part with escapes open? -/
def shellQuotedRest : Bool → List Char → String
  | _, [] => "'"
  | isOpen, c :: cs =>
    if c == '\x27' then
      (if isOpen then "''" else "") ++ "'\\''" ++ shellQuotedRest false cs
    else if isPrintable c then
      (if isOpen then "''" else "") ++ c.toString ++ shellQuotedRest false cs
    else (if isOpen then "" else "'$'") ++ escaped c ++ shellQuotedRest true cs

/-- A name between quotes. -/
def shellQuoted (s : String) : String :=
  let cs := s.toList
  if cs.contains '\x27' &&
      (cs.zipIdx.all fun (c, n) => fitsDoubleQuotes c (n == 0)) then
    "\"" ++ s ++ "\""
  else "'" ++ shellQuotedRest false cs

/-- Does a shell take a character for more than itself? -/
def isSpecial (c : Char) (isFirst isAll : Bool) : Bool :=
  if c == '\x7b' || c == '\x7d' then isAll
  else if c == '#' || c == '~' then isFirst
  else !isPrintable c || [' ', '!', '"', '$', '&', '(', ')', '*', ';', '<', '=', '>', '[', '^', '\x60',
    '|', '?', '\x5c', '\x27'].contains c

/-- A text, between quotes if a shell takes it for more than itself. -/
def nameText (s : String) : String :=
  let cs := s.toList
  if cs.isEmpty || (cs.zipIdx.any fun (c, n) => isSpecial c (n == 0) (cs.length == 1)) then
    shellQuoted s
  else s

/-- A name in front of a colon, between quotes if it needs them. -/
def nameOf (s : String) : String :=
  if s.toList.contains ':' then shellQuoted s else nameText s

end Ensemble.Utility
