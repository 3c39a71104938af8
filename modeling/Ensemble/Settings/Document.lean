/-!
# Ensemble.Settings.Document

**Settings documents**: TOML, as far as settings need it. A setting is a text or a whole number under
a simple key, so a document with a table, a dotted key, an array or any other kind of value holds
something that is no setting and is refused as a whole; nothing of that has to be read. What is
left is read as version 1.1 of the format has it: a key (bare or quoted), an equals sign and a
value on each line, the four kinds of string with their escapes, decimal, hexadecimal, octal and
binary numbers with underscores between digits, comments, and lines that end in a line feed with or
without a carriage return.

A reader takes characters and gives back what it read and the characters after it. The readers that
go around in a loop count down from the number of characters, of which each round takes one or
more.
-/

namespace Ensemble.Settings

/-- The value of a setting. -/
inductive Value
  | text (s : String)
  | number (n : Int)
deriving DecidableEq, Repr

/-- Reads something from the front of some characters. -/
abbrev Reader (α : Type) := List Char → Option (α × List Char)

namespace Document

/-! ### Characters -/

/-- Blanks within a line. -/
def isSpace (c : Char) : Bool :=
  c == ' ' || c == '\t'

/-- A control character, which may stand nowhere but as an escape; a tab is none. -/
def isControl (c : Char) : Bool :=
  (c.toNat < 0x20 && c != '\t') || c.toNat == 0x7F

/-- A character of a bare key. -/
def isBareKey (c : Char) : Bool :=
  c.isAlphanum || c == '_' || c == '-'

/-- The characters after the blanks. -/
def skipSpaces (cs : List Char) : List Char :=
  cs.dropWhile isSpace

/-- The characters after a line's end, if this is one. The end of the document is one too. -/
def lineEnd? : List Char → Option (List Char)
  | [] => some []
  | '\n' :: cs => some cs
  | '\r' :: '\n' :: cs => some cs
  | _ => none

/-- What follows the blanks, the comment and the end of a line, if nothing else is left on it. -/
def restOfLine? (cs : List Char) : Option (List Char) :=
  match skipSpaces cs with
  | '#' :: cs =>
    let comment := cs.takeWhile fun c => !isControl c
    lineEnd? (cs.drop comment.length)
  | cs => lineEnd? cs

/-! ### Strings -/

/-- The value of a hexadecimal digit. -/
def hexDigit? (c : Char) : Option Nat :=
  if c.isDigit then some (c.toNat - '0'.toNat)
  else if 'a' ≤ c ∧ c ≤ 'f' then some (c.toNat - 'a'.toNat + 10)
  else if 'A' ≤ c ∧ c ≤ 'F' then some (c.toNat - 'A'.toNat + 10)
  else none

/-- The character of a code point, if it is one. -/
def scalar? (n : Nat) : Option Char :=
  if n.isValidChar then some (Char.ofNat n) else none

/-- A character given by this many hexadecimal digits. -/
def codePoint (digits : Nat) : Reader Char := fun cs => do
  let taken := cs.take digits
  if taken.length < digits then none
  else
    let values ← taken.mapM hexDigit?
    let c ← scalar? (values.foldl (fun n d => n * 16 + d) 0)
    some (c, cs.drop digits)

/-- What stands for a character after a backslash. -/
def escape : Reader Char
  | 'b' :: cs => some ('\x08', cs)
  | 't' :: cs => some ('\t', cs)
  | 'n' :: cs => some ('\n', cs)
  | 'f' :: cs => some ('\x0c', cs)
  | 'r' :: cs => some ('\r', cs)
  | 'e' :: cs => some ('\x1b', cs)
  | '\x22' :: cs => some ('\x22', cs)
  | '\x5c' :: cs => some ('\x5c', cs)
  | 'x' :: cs => codePoint 2 cs
  | 'u' :: cs => codePoint 4 cs
  | 'U' :: cs => codePoint 8 cs
  | _ => none

/-- One more character in front of what a reader gives. -/
def push (c : Char) : Option (List Char × List Char) → Option (List Char × List Char) :=
  Option.map fun (text, rest) => (c :: text, rest)

/-- The rest of a string between double quotes. -/
def basicString : Nat → Reader (List Char)
  | 0, _ => none
  | fuel + 1, cs =>
    match cs with
    | '\x22' :: cs => some ([], cs)
    | '\x5c' :: cs => do
      let (c, cs) ← escape cs
      push c (basicString fuel cs)
    | c :: cs => if isControl c then none else push c (basicString fuel cs)
    | [] => none

/-- The rest of a string between single quotes. -/
def literalString : Reader (List Char)
  | '\x27' :: cs => some ([], cs)
  | c :: cs => if isControl c then none else push c (literalString cs)
  | [] => none

/-- The end of a string between triple quotes, if this is it: three quotes, with up to two more
before them that belong to the string. -/
def closing? (mark : Char) (cs : List Char) : Option (List Char × List Char) :=
  let quotes := (cs.takeWhile (· == mark)).take 5
  if quotes.length < 3 then none
  else some (quotes.drop 3, cs.drop quotes.length)

/-- The characters after the blanks and the line ends. -/
def skipEmptyLines : List Char → List Char
  | '\n' :: cs => skipEmptyLines cs
  | '\r' :: '\n' :: cs => skipEmptyLines cs
  | c :: cs => if isSpace c then skipEmptyLines cs else c :: cs
  | [] => []

/-- What follows a backslash at the end of a line: all blanks and line ends are skipped. -/
def continuedLine? (cs : List Char) : Option (List Char) :=
  match lineEnd? (skipSpaces cs) with
  | some (c :: cs) => some (skipEmptyLines (c :: cs))
  | _ => none

/-- The rest of a string between triple double quotes. -/
def longBasicString : Nat → Reader (List Char)
  | 0, _ => none
  | fuel + 1, cs =>
    match closing? '\x22' cs with
    | some found => some found
    | none =>
      match cs with
      | '\x5c' :: cs =>
        match continuedLine? cs with
        | some cs => longBasicString fuel cs
        | none => do
          let (c, cs) ← escape cs
          push c (longBasicString fuel cs)
      | '\n' :: cs => push '\n' (longBasicString fuel cs)
      | '\r' :: '\n' :: cs => push '\r' (push '\n' (longBasicString fuel cs))
      | c :: cs => if isControl c then none else push c (longBasicString fuel cs)
      | [] => none

/-- The rest of a string between triple single quotes. -/
def longLiteralString : Nat → Reader (List Char)
  | 0, _ => none
  | fuel + 1, cs =>
    match closing? '\x27' cs with
    | some found => some found
    | none =>
      match cs with
      | '\n' :: cs => push '\n' (longLiteralString fuel cs)
      | '\r' :: '\n' :: cs => push '\r' (push '\n' (longLiteralString fuel cs))
      | c :: cs => if isControl c then none else push c (longLiteralString fuel cs)
      | [] => none

/-- A line end right after the opening triple quotes does not count. -/
def skipFirstLineEnd : List Char → List Char
  | '\n' :: cs => cs
  | '\r' :: '\n' :: cs => cs
  | cs => cs

/-! ### Numbers -/

/-- Digits with single underscores between them, and their value. -/
def digits? (base : Nat) : List Char → Option Nat
  | cs =>
    let groups := cs.splitOn '_'
    if groups.any (·.isEmpty) then none
    else do
      let values ← groups.flatten.mapM hexDigit?
      if values.any (base ≤ ·) then none
      else some (values.foldl (fun n d => n * base + d) 0)

/-- A decimal number has no needless zero in front. -/
def decimal? : List Char → Option Nat
  | ['0'] => some 0
  | '0' :: _ => none
  | cs => digits? 10 cs

/-- A whole number. -/
def integer? : List Char → Option Int
  | '0' :: 'x' :: cs => (digits? 16 cs).map Int.ofNat
  | '0' :: 'o' :: cs => (digits? 8 cs).map Int.ofNat
  | '0' :: 'b' :: cs => (digits? 2 cs).map Int.ofNat
  | '+' :: cs => (decimal? cs).map Int.ofNat
  | '-' :: cs => (decimal? cs).map fun n => -Int.ofNat n
  | cs => (decimal? cs).map Int.ofNat

/-! ### Entries -/

/-- A string of one line. -/
def shortString : Reader String
  | '\x22' :: cs => (basicString (cs.length + 1) cs).map fun (s, rest) => (.ofList s, rest)
  | '\x27' :: cs => (literalString cs).map fun (s, rest) => (.ofList s, rest)
  | _ => none

/-- A string of any kind. -/
def string : Reader String
  | '\x22' :: '\x22' :: '\x22' :: cs =>
    let cs := skipFirstLineEnd cs
    (longBasicString (cs.length + 1) cs).map fun (s, rest) => (.ofList s, rest)
  | '\x27' :: '\x27' :: '\x27' :: cs =>
    let cs := skipFirstLineEnd cs
    (longLiteralString (cs.length + 1) cs).map fun (s, rest) => (.ofList s, rest)
  | cs => shortString cs

/-- A key. -/
def key : Reader String := fun cs =>
  match cs.takeWhile isBareKey with
  | [] => shortString cs
  | bare => some (.ofList bare, cs.drop bare.length)

/-- The characters that can be part of a number. -/
def isNumberChar (c : Char) : Bool :=
  c.isAlphanum || c == '_' || c == '+' || c == '-' || c == '.'

/-- A value. -/
def value : Reader Value := fun cs =>
  match string cs with
  | some (s, rest) => some (.text s, rest)
  | none =>
    let word := cs.takeWhile isNumberChar
    (integer? word).map fun n => (.number n, cs.drop word.length)

/-- A key and its value. -/
def entry : Reader (String × Value) := fun cs => do
  let (k, cs) ← key cs
  match skipSpaces cs with
  | '=' :: cs =>
    let (v, cs) ← value (skipSpaces cs)
    some ((k, v), cs)
  | _ => none

/-- The entries of the lines that are left. -/
def entries : Nat → List Char → Option (List (String × Value))
  | _, [] => some []
  | 0, _ => none
  | fuel + 1, cs =>
    match restOfLine? cs with
    | some rest => entries fuel rest
    | none => do
      let (e, cs) ← entry (skipSpaces cs)
      let rest ← restOfLine? cs
      let es ← entries fuel rest
      some (e :: es)

end Document

/-- The entries of a settings document, in order; none if it is not one. A byte order mark at its
beginning is skipped. -/
def readDocument (text : String) : Option (List (String × Value)) :=
  let cs :=
    match text.toList with
    | '\uFEFF' :: cs => cs
    | cs => cs
  Document.entries cs.length cs

end Ensemble.Settings
