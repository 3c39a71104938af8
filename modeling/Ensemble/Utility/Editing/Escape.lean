import Ensemble.Utility.Editing.Script

/-!
# Ensemble.Utility.Editing.Escape

**Escapes** in scripts. A backslash makes a character with what follows it: a control character, or one
that is given by its number. Before any other character it is kept, and what it then means depends on
what is read: a regular expression, a replacement or a text.
-/

namespace Ensemble.Utility.Editing

/-- A character of a text with escapes. -/
inductive Glyph
  | plain (c : Char)
  /-- It has been made by an escape. -/
  | made (c : Char)
  /-- It stands behind a backslash that does not make a character with it. -/
  | escaped (c : Char)
deriving DecidableEq, Repr

namespace Glyph

/-- The character by itself. -/
def char : Glyph → Char
  | .plain c | .made c | .escaped c => c

/-- The character as a regular expression has it. -/
def spelled : Glyph → List Char
  | .plain c | .made c => [c]
  | .escaped c => ['\x5c', c]

/-- The character that a letter behind a backslash makes. -/
def control? : Char → Option Char
  | 'a' => some '\x07'
  | 'f' => some '\x0c'
  | 'n' | '\n' => some '\n'
  | 'r' => some '\r'
  | 't' => some '\t'
  | 'v' => some '\x0b'
  | _ => none

/-- The base in which a letter behind a backslash announces a number, and its greatest length. -/
def base? : Char → Option (Nat × Nat)
  | 'd' => some (10, 3)
  | 'o' => some (8, 3)
  | 'x' => some (16, 2)
  | _ => none

/-- The value of a digit. -/
def digitValue (c : Char) : Nat :=
  if c.isDigit then c.toNat - '0'.toNat
  else if 'a' ≤ c.toLower && c.toLower ≤ 'f' then c.toLower.toNat - 'a'.toNat + 10
  else 16

/-- The digits at the beginning, of at most so many. -/
def digits (base : Nat) : Nat → List Char → List Nat
  | 0, _ => []
  | _, [] => []
  | n + 1, c :: cs => if digitValue c < base then digitValue c :: digits base n cs else []

/-- The character that is made with a control key. -/
def controlled (c : Char) : Char :=
  Char.ofNat (c.toUpper.toNat ^^^ 0x40)

/-- The characters of a text with escapes. -/
def read : Nat → List Char → Except ScriptFault (List Glyph)
  | 0, _ => .ok []
  | _, [] => .ok []
  | fuel + 1, '\x5c' :: c :: cs =>
    match control? c, base? c with
    | some d, _ => (read fuel cs).map (.made d :: ·)
    | none, some (base, length) =>
      let ds := digits base length cs
      let d := if ds.isEmpty then c else
        Char.ofNat ((ds.foldl (fun n d => n * base + d) 0) % 256)
      (read fuel (cs.drop ds.length)).map (.made d :: ·)
    | none, none =>
      if c == 'c' then
        match cs with
        | [] => .ok [.plain '\x5c']
        | '\x5c' :: '\x5c' :: cs => (read fuel cs).map (.made (controlled '\x5c') :: ·)
        | '\x5c' :: _ => .error .nestedEscape
        | d :: cs => (read fuel cs).map (.made (controlled d) :: ·)
      else (read fuel cs).map (.escaped c :: ·)
  | fuel + 1, c :: cs => (read fuel cs).map (.plain c :: ·)

/-- The characters of a text with escapes. -/
def ofText (text : List Char) : Except ScriptFault (List Glyph) :=
  read (text.length + 1) text

end Glyph

/-! ### Replacements -/

/-- What has been read of a replacement, its last part being open. -/
structure Composition where
  /-- The parts that are complete, the last first. -/
  done : List Part := []
  /-- The text of the open part, the last character first. -/
  text : List Char := []
  all : Letters := .same
  first : Letters := .same

namespace Composition

/-- Complete a part. -/
def close (c : Composition) (group : Option Nat) : Composition :=
  if c.text.isEmpty && group.isNone then { c with first := .same }
  else
    let part : Part := { text := c.text.reverse, group, all := c.all, first := c.first }
    { c with done := part :: c.done, text := [], first := .same }

/-- Take a character into account. -/
def push (c : Composition) (g : Glyph) : Composition :=
  let itself : Composition := { c with text := g.char :: c.text }
  match g with
  | .plain '&' => c.close (some 0)
  | .escaped d =>
    match d with
    | 'U' => { c.close none with all := .upper }
    | 'L' => { c.close none with all := .lower }
    | 'E' => { c.close none with all := .same }
    | 'u' => { c.close none with first := .upper }
    | 'l' => { c.close none with first := .lower }
    | d => if d.isDigit then c.close (some (d.toNat - '0'.toNat)) else itself
  | _ => itself

/-- The parts of a replacement. -/
def parts (glyphs : List Glyph) : List Part :=
  ((glyphs.foldl push {}).close none).done.reverse

end Composition

/-- Letters, of which the first may be changed in another way. -/
def changed (all first : Letters) : List Char → List Char
  | [] => []
  | c :: cs => (if first = .same then all else first).apply c :: cs.map all.apply

/-- What a replacement stands for, given the groups of a match. How the first character is changed is
put off if a group is empty. -/
def composed (groupText : Nat → List Char) : Letters → List Part → List Char
  | _, [] => []
  | put, p :: ps =>
    let first := if p.first = .same then put else p.first
    let text := changed p.all first p.text
    let first := if p.text.isEmpty then first else .same
    let behind := (p.group.map groupText).getD []
    let put := if p.group.isSome && behind.isEmpty && p.first != .same then first else .same
    text ++ changed p.all first behind ++ composed groupText put ps

end Ensemble.Utility.Editing
