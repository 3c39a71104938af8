import Ensemble.Shell.Numeral
import Ensemble.Shell.WordReader

/-!
# Ensemble.Shell.Extended.Word

Reading **words of the extended dialect**. What stands around characters decides what they mean and where
a stretch of them ends (`Stretch`); what is opened inside of a stretch is read as a stretch of its own
(`WordReader.stretch`). Beside what the plain dialect has there are places in rows of values, more that
can be done with a value, escapes between quotes behind a dollar sign, groups of patterns, scripts as
files, and assignments of many values.
-/

namespace Ensemble.Shell.Extended

/-- What stands around characters. -/
structure Stretch where
  /-- The characters that end it. -/
  stops : List Char := []
  /-- Do blanks and operators end it? -/
  isWord : Bool := false
  /-- Does it stand between double quotes? -/
  double : Bool := false
  /-- Do quotation marks stand for themselves? -/
  marksStand : Bool := false
  /-- Brackets that are counted, so that none of a pair ends it. -/
  counted : Option (Char × Char) := none
  /-- Can patterns hold groups? -/
  groups : Bool := false

/-- Complain about a line. -/
def failAt (line : Nat) (message : String) (more : List String := []) (showsLine : Bool := false) :
    Reading α := do
  throw { line, message, more, showsLine }

/-- Complain that the text has come to its end. -/
def endsEarly (line : Nat) (message : String) (more : List String := []) : Reading α := do
  throw { line, message, more, isOpen := true }

/-- Complain that something that was opened is not closed. -/
def unclosed (line : Nat) (mark : Char) : Reading α :=
  endsEarly line ("unexpected EOF while looking for matching \x60" ++ mark.toString ++ "'")

/-- Try to read something; the cursor stays where it is if that is not possible. -/
def attempt (read : Reading (Option α)) : Reading (Option α) := fun c =>
  match read c with
  | .ok (some a, c) => .ok (some a, c)
  | _ => .ok (none, c)

/-- What has been read since a cursor stood somewhere. -/
def readSince (before : Cursor) : Reading String := do
  return .ofList (before.left.take (before.count - (← get).count))

namespace Pieces

/-- Add a character to pieces, of which the last comes first, and its last character first. -/
def plain (ps : List Piece) (c : Char) : List Piece :=
  match ps with
  | .plain s :: ps => .plain (c :: s) :: ps
  | ps => .plain [c] :: ps

def literal (ps : List Piece) (c : Char) : List Piece :=
  match ps with
  | .quoted s :: ps => .quoted (c :: s) :: ps
  | ps => .quoted [c] :: ps

/-- Add pieces that are complete. -/
def add (ps more : List Piece) : List Piece :=
  (more.map fun
    | .plain s => Piece.plain s.reverse
    | .quoted s => .quoted s.reverse
    | p => p).reverse ++ ps

/-- Pieces in which characters that are not quoted lie together. -/
def joined (ps : List Piece) : List Piece :=
  ps.foldr (fun p rest =>
    match p, rest with
    | .plain a, .plain b :: rest => .plain (a ++ b) :: rest
    | p, rest => p :: rest) []

end Pieces

/-! ### Escapes -/

/-- A character with a number; one that is no octet stays an escape. -/
def ofNumber (n : Nat) : List Char :=
  if n < 128 then [Char.ofNat n]
  else
    let digits := (Nat.toDigits 16 n).map Char.toUpper
    let width := if n < 65536 then 4 else 8
    ['\x5c', if n < 65536 then 'u' else 'U'] ++ List.replicate (width - digits.length) '0' ++ digits

/-- The characters that an escape stands for, behind its backslash, and what follows it. -/
def escape : List Char → List Char × List Char
  | [] => (['\x5c'], [])
  | c :: cs =>
    let number (base most : Nat) (cs : List Char) : Option (Nat × List Char) :=
      let ds := (cs.take most).takeWhile fun d => decide (Numeral.digitValue d < base)
      if ds.isEmpty then none else some ((Numeral.digits base ds).1, cs.drop ds.length)
    let named (most : Nat) : List Char × List Char :=
      match number 16 most cs with
      | some (n, rest) => (ofNumber n, rest)
      | none => (['\x5c', c], cs)
    match c with
    | 'a' => (['\x07'], cs)
    | 'b' => (['\x08'], cs)
    | 'e' | 'E' => (['\x1b'], cs)
    | 'f' => (['\x0c'], cs)
    | 'n' => (['\n'], cs)
    | 'r' => (['\r'], cs)
    | 't' => (['\t'], cs)
    | 'v' => (['\x0b'], cs)
    | '\x5c' | '\x27' | '"' | '?' => ([c], cs)
    | 'x' =>
      match number 16 2 cs with
      | some (n, rest) => ([Char.ofNat n], rest)
      | none => (['\x5c', 'x'], cs)
    | 'u' => named 4
    | 'U' => named 8
    | 'c' =>
      match cs with
      | [] => (['\x5c', 'c'], [])
      | d :: rest => ([Char.ofNat (d.toUpper.toNat % 32)], rest)
    | c =>
      match number 8 3 (c :: cs) with
      | some (n, rest) => ([Char.ofNat (n % 256)], rest)
      | none => (['\x5c', c], cs)

/-- The text between quotes behind a dollar sign. -/
def unescape : Nat → List Char → List Char
  | 0, _ => []
  | _, [] => []
  | fuel + 1, '\x5c' :: cs =>
    let (text, rest) := escape cs
    if text == ['\x00'] then [] else text ++ unescape fuel rest
  | fuel + 1, c :: cs => c :: unescape fuel cs

namespace WordReader

/-- How stretches are read that stand inside of one. -/
abbrev Inside := Stretch → Reading Word

/-! ### Quotes -/

/-- The text up to a single quotation mark. If escapes stand in it, a protected one does not end it. -/
def singleQuoted (line : Nat) (escapes : Bool) : Nat → Reading (List Char)
  | 0 => return []
  | fuel + 1 => do
    match ← Reading.nextRaw with
    | none => unclosed line '\x27'
    | some '\x27' => return []
    | some '\x5c' =>
      if escapes then
        match ← Reading.nextRaw with
        | none => unclosed line '\x27'
        | some c =>
          if c == '\n' then Reading.countLine
          return '\x5c' :: c :: (← singleQuoted line escapes fuel)
      else return '\x5c' :: (← singleQuoted line escapes fuel)
    | some c =>
      if c == '\n' then Reading.countLine
      return c :: (← singleQuoted line escapes fuel)

/-- The text between backquotes, the first of which has been read. -/
def backquoted (line : Nat) (double : Bool) : Nat → Reading (List Char)
  | 0 => return []
  | fuel + 1 => do
    match ← Reading.nextRaw with
    | none => unclosed line '\x60'
    | some '\x60' => return []
    | some '\x5c' =>
      match ← Reading.nextRaw with
      | none => unclosed line '\x60'
      | some c =>
        if c == '\n' then Reading.countLine
        let more ← backquoted line double fuel
        if c == '\x5c' || c == '\x60' || c == '$' || (double && c == '"') then return c :: more
        else return '\x5c' :: c :: more
    | some c =>
      if c == '\n' then Reading.countLine
      return c :: (← backquoted line double fuel)

/-- Read something that stands apart. -/
def apart (read : Reading α) (text : List Char) : Reading α := do
  let c ← get
  let inner : Cursor :=
    { Cursor.ofText text c.line with
      aliases := c.aliases, documents := c.documents, nextDocument := c.nextDocument, groups := c.groups }
  match read.run inner with
  | .error e => throw e
  | .ok (a, inner) =>
    set { c with
      documents := inner.documents, nextDocument := inner.nextDocument
      warnings := c.warnings ++ inner.warnings }
    return a

/-- A script in parentheses, of which the first has been read. -/
def enclosed (readers : ScriptReaders) : Reading Command := do
  let before ← get
  set { before with owed := [], pushed := false }
  let script ← readers.enclosed
  modify fun c => { c with owed := before.owed, pushed := false }
  return script

/-! ### Parameters -/

/-- Read a character that must come next. -/
def expect (line : Nat) (c : Char) : Reading Unit := do
  match ← Reading.next with
  | some d => if d != c then unclosed line c
  | none => unclosed line c

/-- A place behind a name, if there is one: are all places meant, or which one? -/
def place? (inside : Inside) : Reading (Option (Option Bool × Word)) := do
  let line := (← get).line
  if (← Reading.peek) != some '[' then return none
  Reading.skip 1
  let c ← get
  match c.left with
  | '@' :: ']' :: _ => do
    Reading.skip 2
    return some (some false, [])
  | '*' :: ']' :: _ => do
    Reading.skip 2
    return some (some true, [])
  | _ => do
    let w ← inside { stops := [']'], counted := some ('[', ']') }
    expect line ']'
    return some (none, w)

/-- The name of a parameter: a name, a number, or a mark. -/
def parameterName? : Reading (Option String) := do
  match ← Reading.peek with
  | some c =>
    if isNameStart c then
      return some (.ofList (← Reading.takeWhile isNameChar Shell.WordReader.wordLimit))
    else if c.isDigit then
      return some (.ofList (← Reading.takeWhile Char.isDigit Shell.WordReader.wordLimit))
    else if Shell.WordReader.isSpecialParameter c then
      Reading.skip 1
      return some c.toString
    else return none
  | none => return none

/-- Pass over characters that come next, if they do. -/
def accept (text : String) : Reading Bool := do
  let _ ← Reading.peek
  let c ← get
  if text.toList.isPrefixOf c.left then
    Reading.skip text.length
    return true
  else return false

/-- What is done with a value, and the words for it; none if this has no meaning. -/
def action? (inside : Inside) (double : Bool) : Reading (Option (Action × Word × Word)) := do
  let word : Reading Word := inside { stops := ['\x7d'], double }
  let pattern (stops : List Char) : Reading Word := inside { stops, groups := true }
  let given (how : Treatment) (emptyToo : Bool) : Reading (Option (Action × Word × Word)) := do
    Reading.skip 1
    return some (.given how emptyToo, ← word, [])
  let cut (atEnd longest : Bool) : Reading (Option (Action × Word × Word)) := do
    return some (.given (.without ⟨atEnd, longest⟩) false, ← pattern ['\x7d'], [])
  let recase (great : Option Bool) (mark : Char) : Reading (Option (Action × Word × Word)) := do
    Reading.skip 1
    let all ← accept mark.toString
    return some (.recase great all, ← pattern ['\x7d'], [])
  match ← Reading.peek with
  | some '\x7d' => return some (.value, [], [])
  | some ':' => do
    Reading.skip 1
    match ← Reading.peek with
    | some '\x7d' | none => return none
    | some c =>
      match Shell.WordReader.treatmentOf? c with
      | some how => given how true
      | none => do
        let offset ← inside { stops := [':', '\x7d'], counted := some ('(', ')') }
        if ← accept ":" then return some (.slice true, offset, ← word)
        else return some (.slice false, offset, [])
  | some '#' => do
    Reading.skip 1
    cut false (← accept "#")
  | some '%' => do
    Reading.skip 1
    cut true (← accept "%")
  | some '/' => do
    Reading.skip 1
    let all ← accept "/"
    let anchor : Anchor ← do
      if all then pure .anywhere
      else if ← accept "#" then pure .start
      else if ← accept "%" then pure .finish
      else pure .anywhere
    let leading ← if all then accept "/" else pure false
    let p ← pattern ['/', '\x7d']
    let p := if leading then .plain ['/'] :: p else p
    if ← accept "/" then return some (.replace all anchor, p, ← inside { stops := ['\x7d'], double })
    else return some (.replace all anchor, p, [])
  | some '^' => recase (some true) '^'
  | some ',' => recase (some false) ','
  | some '~' => recase none '~'
  | some '@' => do
    Reading.skip 1
    match ← Reading.peek with
    | some c =>
      if c.isAlpha then
        Reading.skip 1
        return some (.reshape c, [], [])
      else return none
    | none => return none
  | some c =>
    match Shell.WordReader.treatmentOf? c with
    | some how => given how false
    | none => return none
  | none => return none

/-- What follows the opening brace of a parameter. -/
def braces (inside : Inside) (double : Bool) (before : Cursor) : Reading Piece := do
  let line := (← get).line
  let senseless : Reading Piece := do
    let _ ← inside { stops := ['\x7d'], double }
    expect line '\x7d'
    return .reached "" { action := .senseless (← readSince before) } [] [] []
  let closed (p : Piece) : Reading Piece := do
    if (← Reading.peek) == some '\x7d' then
      Reading.skip 1
      return p
    else senseless
  /- what follows a name -/
  let named (indirect : Bool) (name : String) : Reading Piece := do
    let found ← if isName name.toList then place? inside else pure none
    let (all, place) := found.getD (none, [])
    let all := if name = "@" then some false else if name = "*" then some true else all
    if indirect && all.isSome && found.isSome && (← Reading.peek) == some '\x7d' then
      closed (.reached name { all, action := .places } place [] [])
    else
      match ← action? inside double with
      | none => senseless
      | some (.value, _, _) =>
        if !indirect && found.isNone then
          closed (if isName name.toList then .reached name {} [] [] [] else .parameter name)
        else closed (.reached name { indirect, all } place [] [])
      | some (action, first, second) => closed (.reached name { indirect, all, action } place first second)
  let c ← get
  match c.left with
  | '#' :: '\x7d' :: _ => do
    Reading.skip 1
    closed (.parameter "#")
  | '#' :: next :: after =>
    let isMark := Shell.WordReader.isSpecialParameter next && after.head? == some '\x7d'
    if isNameStart next || next.isDigit || isMark then
      Reading.skip 1
      match ← parameterName? with
      | none => senseless
      | some name => do
        let found ← if isName name.toList then place? inside else pure none
        let (all, place) := found.getD (none, [])
        let all := if name = "@" then some false else if name = "*" then some true else all
        closed (.reached name { all, action := .size } place [] [])
    else
      Reading.skip 1
      named false "#"
  | '!' :: next :: _ =>
    if next == '\x7d' || next == ':' || next == '-' || next == '+' || next == '=' then
      Reading.skip 1
      named false "!"
    else
      Reading.skip 1
      match ← parameterName? with
      | none => senseless
      | some name => do
        let c ← get
        match c.left with
        | '@' :: '\x7d' :: _ => do
          Reading.skip 1
          closed (.reached name { all := some false, action := .names } [] [] [])
        | '*' :: '\x7d' :: _ => do
          Reading.skip 1
          closed (.reached name { all := some true, action := .names } [] [] [])
        | _ => named true name
  | _ =>
    match ← parameterName? with
    | none => senseless
    | some name => named false name

/-- An arithmetic expression up to two parentheses that close it; none if they do not. -/
def expression? (inside : Inside) : Reading (Option Word) := attempt do
  let before ← get
  let w ← inside { stops := [')'], counted := some ('(', ')') }
  let written ← readSince before
  let c ← get
  match c.left with
  | ')' :: ')' :: _ => do
    Reading.skip 2
    return some (w ++ [.written written])
  | _ => return none

/-- What follows a dollar sign. -/
def substitution (readers : ScriptReaders) (inside : Inside) (s : Stretch) (ps : List Piece) :
    Reading (List Piece) := do
  let before ← get
  let line := before.line
  let asIs : List Piece := if s.double then Pieces.literal ps '$' else Pieces.plain ps '$'
  match ← Reading.peek with
  | some '(' => do
    Reading.skip 1
    let sum ←
      if (← Reading.peek) == some '(' then do
        let here ← get
        Reading.skip 1
        match ← expression? inside with
        | some w => pure (some w)
        | none => do
          set here
          pure none
      else pure none
    match sum with
    | some w => return .sum w :: ps
    | none => return .output (← enclosed readers) :: ps
  | some '\x7b' => do
    Reading.skip 1
    let begun := { before with left := '$' :: before.left, count := before.count + 1 }
    return (← braces inside s.double begun) :: ps
  | some '\x27' =>
    if s.double then return asIs
    else
      Reading.skip 1
      let text ← singleQuoted line true Shell.WordReader.wordLimit
      return Pieces.add ps [.mark, .quoted (unescape (text.length + 1) text), .mark]
  | some '"' => return if s.double then asIs else ps
  | some c =>
    if isNameStart c || c.isDigit || Shell.WordReader.isSpecialParameter c then
      if c.isDigit then
        Reading.skip 1
        return .parameter c.toString :: ps
      match ← parameterName? with
      | some name => return .parameter name :: ps
      | none => return asIs
    else return asIs
  | none => return asIs

/-! ### Stretches -/

def isOperator (c : Char) : Bool :=
  ['|', '&', ';', '(', ')', '<', '>'].contains c

/-- Can a group of patterns begin behind this? -/
def opensGroup (c : Char) : Bool :=
  ['?', '*', '+', '@', '!'].contains c

/-- Read a stretch, up to what ends it. `depth` counts brackets that are open. -/
def stretchFrom (readers : ScriptReaders) (inside : Inside) (s : Stretch) :
    Nat → Nat → List Piece → Reading Word
  | 0, _, ps => return Shell.WordState.tidy ps
  | fuel + 1, depth, ps => do
    let go := stretchFrom readers inside s fuel
    let asItStands (c : Char) : List Piece :=
      if s.double then Pieces.literal ps c else Pieces.plain ps c
    match ← Reading.peek with
    | none => return Shell.WordState.tidy ps
    | some c => do
      let after := (← get).left[1]?
      let opensChannel := s.isWord && (c == '<' || c == '>') && after == some '('
      if depth = 0 && s.stops.contains c then return Shell.WordState.tidy ps
      if s.isWord && !opensChannel && (isOperator c || c == ' ' || c == '\t' || c == '\n') then
        return Shell.WordState.tidy ps
      let line := (← get).line
      Reading.skip 1
      if opensChannel then
        Reading.skip 1
        return ← go depth (.channel (c == '<') (← enclosed readers) :: ps)
      match c with
      | '\n' => do
        Reading.countLine
        go depth (asItStands c)
      | '\x5c' =>
        match ← Reading.nextRaw with
        | none => go depth (Pieces.literal ps '\x5c')
        | some d => do
          if d == '\n' then Reading.countLine
          let stays := s.double && !(['$', '\x60', '\x5c'].contains d) &&
            !(d == '"' && !s.marksStand) && !(s.stops.contains d && d == '\x7d')
          let ps := if stays then Pieces.literal ps '\x5c' else ps
          go depth (Pieces.literal ps d)
      | '$' => do
        go depth (← substitution readers inside s ps)
      | '\x60' => do
        let text ← backquoted line s.double Shell.WordReader.wordLimit
        go depth (.output (← apart readers.alone text) :: ps)
      | '\x27' =>
        if s.double then go depth (asItStands c)
        else
          let text ← singleQuoted line false Shell.WordReader.wordLimit
          go depth (Pieces.add ps [.mark, .quoted text, .mark])
      | '"' =>
        if s.marksStand then go depth (asItStands c)
        else
          let w ← inside { stops := ['"'], double := true }
          expect line '"'
          go depth (if s.double then Pieces.add ps w else Pieces.add ps ([.mark] ++ w ++ [.mark]))
      | c =>
        if s.groups && opensGroup c && after == some '(' && !s.double then
          Reading.skip 1
          let w ← inside { stops := [')'], groups := true, counted := some ('(', ')') }
          expect line ')'
          go depth (Pieces.add (Pieces.plain (Pieces.plain ps c) '(') (w ++ [.plain [')']]))
        else
          let depth :=
            match s.counted with
            | some (opening, closing) =>
              if c == opening then depth + 1 else if c == closing then depth - 1 else depth
            | none => depth
          go depth (asItStands c)

/-- Read a stretch that holds so many levels of others. -/
def stretch (readers : ScriptReaders) : Nat → Inside
  | 0, _ => failAt 0 "syntax error"
  | n + 1, s =>
    stretchFrom readers (stretch readers n) s Shell.WordReader.wordLimit 0 []

/-- How deep stretches may stand in one another. -/
def stretchDepth : Nat := 10000

def read (readers : ScriptReaders) : Inside :=
  stretch readers stretchDepth

/-! ### Words -/

/-- Pass over blanks, line feeds and comments. -/
def passBlanks (lines : Bool) : Nat → Reading Unit
  | 0 => return ()
  | fuel + 1 => do
    match ← Reading.peek with
    | some ' ' | some '\t' => do
      Reading.skip 1
      passBlanks lines fuel
    | some '\n' =>
      if lines then
        Reading.skip 1
        Reading.countLine
        passBlanks lines fuel
    | some '#' =>
      if lines then
        Reading.skipLine
        passBlanks lines fuel
    | _ => return ()

/-- The place and the mark of an assignment. -/
def placedMark? (readers : ScriptReaders) : Reading (Option Word) := attempt do
  match ← place? (read readers) with
  | none => return none
  | some (all, w) => do
    let w := match all with | some true => [.plain ['*']] | some false => [.plain ['@']] | none => w
    if ← accept "+=" then return some [.place w, .plain ['+', '=']]
    else if ← accept "=" then return some [.place w, .plain ['=']]
    else return none

/-- Values in parentheses, of which the first has been read. -/
def items (readers : ScriptReaders) (line : Nat) : Nat → Reading (List Word)
  | 0 => return []
  | fuel + 1 => do
    passBlanks true Shell.WordReader.wordLimit
    match ← Reading.peek with
    | none => unclosed line ')'
    | some ')' => do
      Reading.skip 1
      return []
    | some c => do
      if isOperator c && !((c == '<' || c == '>') && (← get).left[1]? == some '(') then
        failAt (← get).line ("syntax error near unexpected token \x60" ++ c.toString ++ "'") [] true
      let before ← get
      let lead := (← placedMark? readers).getD []
      let w ← read readers { isWord := true, groups := (← get).groups }
      let item := Pieces.joined (lead ++ w) ++ [.written (← readSince before)]
      return item :: (← items readers line fuel)

/-- The name and the mark of an assignment, as far as the word begins like one. -/
def assignmentLead? (readers : ScriptReaders) : Reading (Option Word) := attempt do
  let name ← Reading.takeWhile isNameChar Shell.WordReader.wordLimit
  if !isName name then return none
  match ← Reading.peek with
  | some '[' => do
    match ← placedMark? readers with
    | some lead => return some (.plain name :: lead)
    | none => return none
  | some '=' => do
    Reading.skip 1
    return some [.plain (name ++ ['='])]
  | some '+' => do
    if ← accept "+=" then return some [.plain (name ++ ['+', '='])] else return none
  | _ => return none

/-- A word. Where it can be an assignment, many values can be assigned by it. -/
def word (readers : ScriptReaders) (assigns : Bool) : Reading Word := do
  let before ← get
  let line := before.line
  let lead ← if assigns then assignmentLead? readers else pure none
  let values ← do
    if lead.isSome && (← Reading.peek) == some '(' then
      Reading.skip 1
      pure (some (← items readers line Shell.WordReader.wordLimit))
    else pure none
  let rest ←
    match values with
    | some ws => pure [.elements ws]
    | none => read readers { isWord := true, groups := (← get).groups }
  return Pieces.joined (lead.getD [] ++ rest) ++ [.written (← readSince before)]

/-! ### Texts in the script -/

/-- The lines of a text up to its delimiter; is it there? -/
def textLines (o : Owed) : Nat → Reading (List Char × Bool)
  | 0 => return ([], false)
  | fuel + 1 => do
    let c ← get
    if c.left.isEmpty then return ([], false)
    let line := c.left.takeWhile (· != '\n')
    let whole := if line.length < c.left.length then line.length + 1 else line.length
    set { c.drop whole with line := c.line + 1 }
    let line := if o.tabsOut then line.dropWhile (· == '\t') else line
    if line == o.delimiter then return ([], true)
    let (more, ended) ← textLines o fuel
    return (line ++ '\n' :: more, ended)

/-- Read the texts that are owed. -/
def texts (readers : ScriptReaders) : Reading Unit := do
  let owed := (← get).owed
  modify fun c => { c with owed := [] }
  owed.forM fun o => do
    let start := (← get).line - 1
    let (text, ended) ← textLines o Shell.WordReader.wordLimit
    if !ended then
      modify fun c =>
        { c with warnings := c.warnings ++ [(c.line - 1, "here-document at line " ++ toString start ++
            " delimited by end-of-file (wanted \x60" ++ .ofList o.delimiter ++ "')")] }
    let w ←
      if o.verbatim then pure [.quoted text]
      else apart (read readers { double := true, marksStand := true }) text
    modify fun c => { c with documents := c.documents ++ [(o.number, w)] }

end WordReader

end Ensemble.Shell.Extended
