import Ensemble.Shell.Cursor

/-!
# Ensemble.Shell.WordReader

Reading **words**. What a character means depends on where it stands, and that is kept as a stack of
`Frame`s: outside of quotes, between double or single quotes, or in an arithmetic expression. Inside
a frame braces of parameters can be open. A text that stands in the script is read as a word too,
line by line up to its delimiter.
-/

namespace Ensemble.Shell

/-- Where characters stand. -/
inductive Frame.Shape
  | base
  | double
  | single
  | sum
deriving DecidableEq, Repr

/-- A stretch of a word in which characters have the same meaning. -/
structure Frame where
  shape : Frame.Shape
  /-- The braces that are open. -/
  braces : Nat := 0
  /-- Those of them that were opened between double quotes. -/
  quotedBraces : Nat := 0
  /-- Are we between double quotes inside of braces? -/
  innerQuote : Bool := false
  /-- Was the frame opened by a brace? -/
  byBrace : Bool := false
  /-- Does a backslash only protect what double quotes leave its meaning? -/
  double : Bool := false
  /-- The parentheses that are open in an expression. -/
  parens : Nat := 0
deriving Repr

/-- Something that has been opened in a word, and the pieces before it. -/
structure Opened where
  /-- A parameter that is treated somehow, or else an expression. -/
  treated : Option (String × Treatment × Bool)
  before : List Piece

/-- A word that is being read. -/
structure WordState where
  frame : Frame
  outer : List Frame := []
  opened : List Opened := []
  /-- The last piece first, and its last character first. -/
  pieces : List Piece := []
  quoted : Bool := false

/-- What a word ends with: a delimiter, if it is a text that stands in the script. -/
structure Ends where
  owed : Option Owed := none
  /-- Do `$` and backquotes stand for themselves? -/
  verbatim : Bool := false

/-- How scripts inside of words are read. -/
structure ScriptReaders where
  /-- Up to the closing parenthesis. -/
  enclosed : Reading Command
  /-- To the end. -/
  alone : Reading Command

namespace WordState

/-- Pieces in their order. -/
def tidy (ps : List Piece) : List Piece :=
  ps.reverse.map fun
    | .plain s => .plain s.reverse
    | .quoted s => .quoted s.reverse
    | p => p

def add (w : WordState) (p : Piece) : WordState :=
  { w with pieces := p :: w.pieces }

def plain (w : WordState) (c : Char) : WordState :=
  match w.pieces with
  | .plain s :: ps => { w with pieces := .plain (c :: s) :: ps }
  | ps => { w with pieces := .plain [c] :: ps }

def literal (w : WordState) (c : Char) : WordState :=
  match w.pieces with
  | .quoted s :: ps => { w with pieces := .quoted (c :: s) :: ps }
  | ps => { w with pieces := .quoted [c] :: ps }

/-- Add a character that stands for itself, as it is quoted where it stands. -/
def char (w : WordState) (inText : Bool) (c : Char) : WordState :=
  match w.frame.shape with
  | .base | .sum => w.plain c
  | .double => w.literal c
  | .single => if inText && !w.frame.double then w.plain c else w.literal c

/-- Open something. -/
def openUp (w : WordState) (treated : Option (String × Treatment × Bool)) : WordState :=
  { w with opened := ⟨treated, w.pieces⟩ :: w.opened, pieces := [] }

/-- Close what was opened last. -/
def close (w : WordState) : WordState :=
  match w.opened with
  | [] => w
  | o :: opened =>
    let inside := tidy w.pieces
    let piece : Piece :=
      match o.treated with
      | some (name, how, emptyToo) => .treated name how emptyToo inside
      | none => .sum inside
    { w with opened, pieces := piece :: o.before }

def pushFrame (w : WordState) (f : Frame) : WordState :=
  { w with frame := f, outer := w.frame :: w.outer }

def popFrame (w : WordState) : WordState :=
  match w.outer with
  | f :: outer => { w with frame := f, outer }
  | [] => w

def setFrame (w : WordState) (f : Frame → Frame) : WordState :=
  { w with frame := f w.frame }

end WordState

namespace WordReader

/-- The parameters that are not named by a name or a number. -/
def isSpecialParameter (c : Char) : Bool :=
  ['@', '*', '#', '?', '-', '$', '!'].contains c

def isAlnum (c : Char) : Bool :=
  c.isAlpha || c.isDigit

def wordLimit : Nat := 10000000

/-- The treatment that a character behind a parameter's name stands for. -/
def treatmentOf? : Char → Option Treatment
  | '-' => some .orElse
  | '+' => some .ifThere
  | '?' => some .orComplain
  | '=' => some .orAssign
  | _ => none

/-- The frame in which the word of a treated parameter stands. -/
def enterBrace (w : WordState) (name : String) (how : Treatment) (emptyToo : Bool) : WordState :=
  let w := w.openUp (some (name, how, emptyToo))
  let shape : Frame.Shape :=
    match how with
    | .without _ => .base
    | _ => if w.frame.shape == .sum then .double else w.frame.shape
  let w :=
    if shape != w.frame.shape || w.frame.innerQuote then
      w.pushFrame { shape, byBrace := true, double := shape != .base }
    else w
  w.setFrame fun f =>
    { f with
      braces := f.braces + 1
      quotedBraces := if f.double then f.quotedBraces + 1 else f.quotedBraces }

/-- What follows the name of a parameter in braces, of which `c` is the first character and has been
read. -/
def treatment (w : WordState) (name : String) (c : Option Char) : Reading WordState := do
  match c with
  | some '}' => return w.add (.parameter name)
  | some '%' =>
    if (← Reading.peek) == some '%' then
      Reading.skip 1
      return enterBrace w name (.without ⟨true, true⟩) false
    else return enterBrace w name (.without ⟨true, false⟩) false
  | some '#' =>
    if (← Reading.peek) == some '#' then
      Reading.skip 1
      return enterBrace w name (.without ⟨false, true⟩) false
    else return enterBrace w name (.without ⟨false, false⟩) false
  | some ':' =>
    match ← Reading.next with
    | some '}' => return enterBrace w name .orElse true
    | some c => return enterBrace w name ((treatmentOf? c).getD .senseless) true
    | none => return enterBrace w name .senseless true
  | some c => return enterBrace w name ((treatmentOf? c).getD .senseless) false
  | none => return enterBrace w name .senseless false

/-- What follows the opening brace of a parameter. -/
def braces (w : WordState) : Reading WordState := do
  let named (c : Char) (sized : Bool) : Reading WordState := do
    let more ← Reading.takeWhile (if c.isDigit then Char.isDigit else isNameChar) wordLimit
    let name := String.ofList (c :: more)
    if sized then
      if (← Reading.peek) == some '}' then return enterBrace w name .size false
      else return enterBrace w name .senseless false
    else treatment w name (← Reading.next)
  match ← Reading.next with
  | none => return enterBrace w "" .senseless false
  | some '}' => do
    modify fun c => { c with left := '}' :: c.left, count := c.count + 1 }
    return enterBrace w "" .senseless false
  | some '#' =>
    match ← Reading.next with
    | none => return enterBrace w "#" .senseless false
    | some c =>
      if c == '_' || isAlnum c then named c true
      else
        match ← Reading.peek with
        | some '}' =>
          if c != '}' then
            if isSpecialParameter c then return enterBrace w c.toString .size false
            else return enterBrace w "" .senseless false
          else treatment w "#" (some c)
        | _ => treatment w "#" (some c)
  | some c =>
    if isNameStart c || c.isDigit then named c false
    else if isSpecialParameter c then treatment w c.toString (← Reading.next)
    else return enterBrace w "" .senseless false

/-- The text between backquotes, the first of which has been read. -/
def backquoted (double : Bool) : Nat → Reading (List Char)
  | 0 => return []
  | fuel + 1 => do
    match ← Reading.next with
    | none => Reading.fail "EOF in backquote substitution"
    | some '`' => return []
    | some '\x5c' =>
      match ← Reading.nextRaw with
      | none => return '\x5c' :: (← backquoted double fuel)
      | some c =>
        let more ← backquoted double fuel
        if c == '\x5c' || c == '`' || c == '$' || (double && c == '"') then return c :: more
        else return '\x5c' :: c :: more
    | some c =>
      if c == '\n' then Reading.countLine
      return c :: (← backquoted double fuel)

/-- Read a script that stands apart. -/
def apart (readers : ScriptReaders) (text : List Char) : Reading Command := do
  let c ← get
  let inner : Cursor :=
    { Cursor.ofText text 1 with
      aliases := c.aliases, documents := c.documents, nextDocument := c.nextDocument }
  match readers.alone.run inner with
  | .error e => throw e
  | .ok (script, inner) =>
    set { c with documents := inner.documents, nextDocument := inner.nextDocument }
    return script

/-- What follows a `$`. -/
def substitution (readers : ScriptReaders) (inText verbatim : Bool) (w : WordState) :
    Reading WordState := do
  let c ← Reading.peek
  match if verbatim then none else c with
  | some '(' =>
    Reading.skip 1
    if (← Reading.peek) == some '(' then
      Reading.skip 1
      return (w.openUp none).pushFrame { shape := .sum, double := true }
    else
      let owed := (← get).owed
      modify fun c => { c with owed := [] }
      let script ← readers.enclosed
      modify fun c => { c with owed, pushed := false }
      return w.add (.output script)
  | some '{' =>
    Reading.skip 1
    braces w
  | some c =>
    if isNameStart c then
      let name ← Reading.takeWhile isNameChar wordLimit
      return w.add (.parameter (.ofList name))
    else if c.isDigit || isSpecialParameter c then
      Reading.skip 1
      return w.add (.parameter c.toString)
    else return w.char inText '$'
  | none => return w.char inText '$'

/-- A backslash, which has been read. -/
def protectedChar (inText : Bool) (w : WordState) : Reading WordState := do
  match ← Reading.nextRaw with
  | none => return w.literal '\x5c'
  | some c =>
    let stays := w.frame.double && c != '\x5c' && c != '`' && c != '$' &&
      (c != '"' || (inText && w.frame.braces == 0)) && (c != '}' || w.frame.braces == 0)
    let w := if stays then w.literal '\x5c' else w
    return { w.literal c with quoted := true }

/-- A quotation mark. -/
def quotation (inText : Bool) (w : WordState) : WordState :=
  if inText then w else w.add .mark

/-- A double quotation mark also counts for the braces around it. -/
def doubleQuotation (inText : Bool) (w : WordState) : WordState :=
  quotation inText (w.setFrame fun f =>
    if f.braces != 0 then { f with innerQuote := !f.innerQuote } else f)

/-- What the end of a text looks like: the delimiter on a line of its own. -/
def textEnd? (o : Owed) (left : List Char) : Option (List Char) :=
  let line := if o.tabsOut then left.dropWhile (· == '\t') else left
  if o.delimiter.isPrefixOf line then
    match line.drop o.delimiter.length with
    | [] => some []
    | '\n' :: rest => some rest
    | _ => none
  else none

/-- Complain if the word is not at its end where it ends. -/
def finishWord (inText : Bool) (w : WordState) : Reading WordState := do
  if w.frame.shape == .sum then Reading.fail "Missing '))'"
  if w.frame.shape != .base && !inText then Reading.fail "Unterminated quoted string"
  if w.frame.braces != 0 then Reading.fail "Missing '\x7d'"
  return w

/-- Read a word to its end. `fresh` tells that a line begins here. -/
def readFrom (readers : ScriptReaders) (ends : Ends) : Nat → Bool → WordState → Reading WordState
  | 0, _, w => return w
  | fuel + 1, fresh, w => do
    let inText := ends.owed.isSome
    if fresh then
      match ends.owed with
      | some o =>
        match textEnd? o (← get).left with
        | some rest =>
          modify fun c => { c with left := rest, count := rest.length, line := c.line + 1 }
          return ← finishWord inText w
        | none =>
          if o.tabsOut then
            modify fun c =>
              let rest := c.left.dropWhile (· == '\t')
              { c with left := rest, count := rest.length }
      | none => pure ()
    let shape := w.frame.shape
    let first : Reading (Option Char) := if shape == .single then Reading.peekRaw else Reading.peek
    match ← first with
    | none => finishWord inText w
    | some c =>
      let go := readFrom readers ends fuel false
      if c == '\n' then
        if shape == .base && w.frame.braces == 0 then return ← finishWord inText w
        Reading.skip 1
        Reading.countLine
        return ← readFrom readers ends fuel true (w.char inText c)
      if shape == .single then
        Reading.skip 1
        if c == '\x27' && !(inText && w.frame.braces == 0) then
          let w := if w.frame.quotedBraces == 0 then
              w.setFrame fun f => { f with shape := .base, double := false }
            else w
          return ← go (quotation inText { w with quoted := true })
        else return ← go (w.char inText c)
      if shape == .base && w.frame.braces == 0 && ['<', '>', '(', ')', ';', '&', '|', ' ', '\t'].contains c
      then return ← finishWord inText w
      Reading.skip 1
      match c, shape with
      | '\x5c', _ => go (← protectedChar inText w)
      | '$', _ => go (← substitution readers inText ends.verbatim w)
      | '`', _ =>
        if ends.verbatim then go (w.char inText c)
        else
          let text ← backquoted w.frame.double wordLimit
          go (w.add (.output (← apart readers text)))
      | '}', _ =>
        if !w.frame.innerQuote && w.frame.braces != 0 then
          let braces := w.frame.braces - 1
          let w := w.close.setFrame ({ · with braces })
          if braces == 0 && w.frame.byBrace then go w.popFrame
          else go (w.setFrame fun f => { f with quotedBraces := f.quotedBraces - 1 })
        else go (w.char inText c)
      | '\x27', .base => go (quotation inText (w.setFrame ({ · with shape := .single })))
      | '"', .base =>
        go (doubleQuotation inText (w.setFrame ({ · with shape := .double, double := true })))
      | '"', .double =>
        if inText && w.frame.braces == 0 then go (w.char inText c)
        else
          let w := if w.frame.quotedBraces == 0 then
              w.setFrame fun f => { f with shape := .base, double := false }
            else w
          go (doubleQuotation inText { w with quoted := true })
      | '(', .sum => go ((w.char inText c).setFrame fun f => { f with parens := f.parens + 1 })
      | ')', .sum =>
        if w.frame.parens != 0 then
          go ((w.char inText c).setFrame fun f => { f with parens := f.parens - 1 })
        else if (← Reading.peek) == some ')' then
          Reading.skip 1
          go w.close.popFrame
        else go (w.char inText c)
      | _, _ => go (w.char inText c)

/-- A word, and whether any of it is quoted. -/
def word (readers : ScriptReaders) (verbatim : Bool) : Reading (Word × Bool) := do
  let w ← readFrom readers { verbatim } wordLimit false { frame := { shape := .base } }
  return (WordState.tidy w.pieces, w.quoted)

/-- A text that stands in the script. -/
def text (readers : ScriptReaders) (o : Owed) : Reading Word := do
  let frame : Frame := if o.verbatim then { shape := .single } else { shape := .double, double := true }
  let w ← readFrom readers { owed := some o } wordLimit true { frame }
  return WordState.tidy w.pieces

/-- Read the texts that are owed. -/
def texts (readers : ScriptReaders) : Reading Unit := do
  let owed := (← get).owed
  modify fun c => { c with owed := [] }
  owed.forM fun o => do
    let w ← text readers o
    modify fun c => { c with documents := c.documents ++ [(o.number, w)] }

end WordReader

end Ensemble.Shell
