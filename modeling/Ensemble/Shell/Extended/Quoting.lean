/-!
# Ensemble.Shell.Extended.Quoting

**Words that a script could hold**: texts between single or double quotes, behind backslashes, or as
escapes between quotes behind a dollar sign.
-/

namespace Ensemble.Shell.Extended.Quoting

def isPrintable (c : Char) : Bool :=
  0x20 ≤ c.toNat && c.toNat ≤ 0x7E

/-- Can a text only be shown by escapes? -/
def needsEscapes (s : String) : Bool :=
  s.toList.any fun c => !isPrintable c

/-- A text by escapes. -/
def escaped (s : String) : String :=
  let text (c : Char) : String :=
    match c with
    | '\x1b' => "\\E"
    | '\x07' => "\\a"
    | '\x08' => "\\b"
    | '\x0b' => "\\v"
    | '\t' => "\\t"
    | '\n' => "\\n"
    | '\r' => "\\r"
    | '\x0c' => "\\f"
    | '\x5c' => "\\\\"
    | '\x27' => "\\'"
    | c =>
      if isPrintable c then c.toString
      else
        let digits := Nat.toDigits 8 c.toNat
        "\\" ++ .ofList (List.replicate (3 - digits.length) '0' ++ digits)
  "$'" ++ String.join (s.toList.map text) ++ "'"

/-- A text between single quotes. -/
def single (s : String) : String :=
  if s == "'" then "\\'"
  else
    "'" ++ String.join (s.toList.map fun c => if c == '\x27' then "'\\''" else c.toString) ++ "'"

/-- A text between double quotes. -/
def double (s : String) : String :=
  "\"" ++ String.join (s.toList.map fun c =>
    if ['"', '\x5c', '$', '\x60'].contains c then "\\" ++ c.toString else c.toString) ++ "\""

/-- Does a text hold characters that mean something to a shell? -/
def holdsMarks (s : String) : Bool :=
  let rec go : Option Char → List Char → Bool
    | _, [] => false
    | before, c :: cs =>
      let special : Bool :=
        if [' ', '\t', '\n', '\x27', '"', '\x5c', '|', '&', ';', '(', ')', '<', '>', '!', '\x7b', '\x7d', '*',
          '[', '?', ']', '^', '$', '\x60'].contains c then true
        else if c == '~' then
          match before with
          | none | some '=' | some ':' => true
          | _ => false
        else if c == '#' then
          match before with
          | none | some ' ' | some '\t' => true
          | _ => false
        else false
      special || go (some c) cs
  go none s.toList

/-- A word of a command that is traced. -/
def traced (s : String) : String :=
  if s == "" then "''"
  else if holdsMarks s then single s
  else if needsEscapes s then escaped s
  else s

/-- A value that is traced. -/
def tracedValue (s : String) : String :=
  if s == "" then "" else traced s

/-- A text as it could be used again. -/
def reusable (s : String) : String :=
  if s == "" then "''"
  else if needsEscapes s then escaped s
  else single s

/-- A text in which backslashes protect. -/
def protected' (s : String) : String :=
  if s == "" then "''"
  else if needsEscapes s then escaped s
  else
    let rec go : Bool → List Char → String
      | _, [] => ""
      | isFirst, c :: cs =>
        let special :=
          [' ', '\x27', '"', '\x5c', '|', '&', ';', '(', ')', '<', '>', '!', '\x7b', '\x7d', '*', '[', '?',
            ']', '^', '$', '\x60', ','].contains c || (isFirst && (c == '#' || c == '~'))
        (if special then "\\" else "") ++ c.toString ++ go false cs
    go true s.toList

/-- The value of a variable that is listed. -/
def value (s : String) : String :=
  if needsEscapes s then escaped s else double s

/-- The value of a variable as a script could set it. -/
def assigned (s : String) : String :=
  if s == "" then ""
  else if needsEscapes s then escaped s
  else if holdsMarks s then single s
  else s

/-- A key in brackets. -/
def key (s : String) : String :=
  if needsEscapes s then escaped s
  else if holdsMarks s then double s
  else s

end Ensemble.Shell.Extended.Quoting
