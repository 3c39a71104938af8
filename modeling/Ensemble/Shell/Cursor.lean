import Ensemble.Shell.Syntax

/-!
# Ensemble.Shell.Cursor

A place in the text of a script that is being read. A backslash before a line feed joins two lines:
it is passed over wherever characters are read, but between single quotes (`Cursor.join`).

The text of an alias is put before what is left. While it is being read the alias is in use and is
not put in again; the cursor knows how much will be left when the text is used up (`AliasUse.stop`).
-/

/-! ### Tokens

The **tokens** of a script, and how they are told in a complaint. A word that nothing in it quotes
can be a keyword, where one can stand.
-/

namespace Ensemble.Shell

/-- The words that have a meaning in the place of a command. -/
inductive Keyword
  | negation | select | body | bodyEnd | elseIf | otherwise | selectEnd | choiceEnd | each
  | choice | among | choose | loopUntil | loopWhile | group | groupEnd
  | condition | conditionEnd | define | menu | timed
deriving DecidableEq, Repr

namespace Keyword

/-- A keyword as it is written. -/
def text : Keyword → String
  | .negation => "!"
  | .select => "case"
  | .body => "do"
  | .bodyEnd => "done"
  | .elseIf => "elif"
  | .otherwise => "else"
  | .selectEnd => "esac"
  | .choiceEnd => "fi"
  | .each => "for"
  | .choice => "if"
  | .among => "in"
  | .choose => "then"
  | .loopUntil => "until"
  | .loopWhile => "while"
  | .group => "\x7b"
  | .groupEnd => "\x7d"
  | .condition => "[["
  | .conditionEnd => "]]"
  | .define => "function"
  | .menu => "select"
  | .timed => "time"

/-- The keywords of every dialect. -/
def common : List Keyword :=
  [.negation, .select, .body, .bodyEnd, .elseIf, .otherwise, .selectEnd, .choiceEnd,
    .each, .choice, .among, .choose, .loopUntil, .loopWhile, .group, .groupEnd]

def all : List Keyword :=
  common ++ [.condition, .conditionEnd, .define, .menu, .timed]

/-- The keyword of a text. -/
def ofText? (keywords : List Keyword) (s : String) : Option Keyword :=
  keywords.find? fun k => k.text == s

/-- Every keyword is read back from its text. -/
theorem ofText?_text (k : Keyword) : ofText? all k.text = some k := by
  cases k <;> decide

end Keyword

/-- What stands before the word of a redirection. -/
inductive Lead
  | file (kind : RedirectKind)
  | duplicate
  /-- A text that follows in the script; tabs at the beginnings of its lines can be left out. -/
  | document (tabsOut : Bool)
  /-- A word that is the text. -/
  | content
  /-- A file for output and complaints. -/
  | outputs (kind : RedirectKind)
deriving DecidableEq, Repr

/-- A token. -/
inductive Token
  | finish
  | newline
  | semicolon
  | ampersand
  | also
  | either
  | pipe
  /-- A pipe for output and complaints. -/
  | pipeBoth
  | opening
  | closing
  /-- The end of an arm. -/
  | armEnd
  /-- The end of an arm behind which the next one is run, or the next patterns are tried. -/
  | armThrough
  | armOnward
  | redirect (fd : Nat) (lead : Lead)
  /-- A redirection whose descriptor is kept in a name. -/
  | chosen (name : String) (lead : Lead)
  | word (w : Word)
  | keyword (k : Keyword)

namespace Token

/-- The token as it is told in a complaint. -/
def name : Token → String
  | .finish => "end of file"
  | .newline => "newline"
  | .semicolon => "\";\""
  | .ampersand => "\"&\""
  | .also => "\"&&\""
  | .either => "\"||\""
  | .pipe => "\"|\""
  | .pipeBoth => "\"|&\""
  | .opening => "\"(\""
  | .closing => "\")\""
  | .armEnd => "\";;\""
  | .armThrough => "\";&\""
  | .armOnward => "\";;&\""
  | .redirect .. | .chosen .. => "redirection"
  | .word _ => "word"
  | .keyword k => "\"" ++ k.text ++ "\""

/-- Can no further command of a list follow here? -/
def endsList : Token → Bool
  | .finish | .closing | .armEnd | .armThrough | .armOnward => true
  | .keyword k =>
    [Keyword.body, .bodyEnd, .elseIf, .otherwise, .selectEnd, .choiceEnd, .choose, .groupEnd].contains k
  | _ => false

end Token

end Ensemble.Shell

/-! ### The cursor -/

namespace Ensemble.Shell

/-- Why a script cannot be read. -/
structure ReadFault where
  line : Nat
  message : String
  /-- What is told after it, in the same way. -/
  more : List String := []
  /-- Is the line of the script told, too? -/
  showsLine : Bool := false
  /-- Could it be read if there were more of it? -/
  isOpen : Bool := false
deriving Repr

/-- An alias whose text is being read. -/
structure AliasUse where
  name : String
  /-- How much is left when the text is used up. -/
  stop : Nat
  /-- Is there a blank at the end of the text, so that the next word can be an alias too? -/
  blank : Bool
deriving Repr

/-- A text of the script that begins after the line that is being read. -/
structure Owed where
  number : Nat
  delimiter : List Char
  /-- Does everything in the text stand for itself? -/
  verbatim : Bool
  tabsOut : Bool
deriving Repr

/-- A place in a script. -/
structure Cursor where
  left : List Char
  /-- How many characters are left. -/
  count : Nat
  line : Nat := 1
  aliases : List (String × String) := []
  inUse : List AliasUse := []
  /-- Has a text been used up with a blank at its end? -/
  aliasNext : Bool := false
  /-- The token that was read last, and whether it is to be read once more. -/
  last : Token := .newline
  pushed : Bool := false
  /-- The word that was read last. -/
  lastWord : Word := []
  owed : List Owed := []
  /-- Texts that have been read, by their numbers. -/
  documents : List (Nat × Word) := []
  nextDocument : Nat := 0
  /-- Can patterns hold groups? -/
  groups : Bool := false
  /-- What is told of the script although it can be read, with lines. -/
  warnings : List (Nat × String) := []

/-- Reading a script. -/
abbrev Reading := StateT Cursor (Except ReadFault)

namespace Cursor

/-- A cursor at the beginning of a text. -/
def ofText (text : List Char) (line : Nat) : Cursor :=
  { left := text, count := text.length, line }

/-- Drop so many characters. -/
def drop (c : Cursor) (n : Nat) : Cursor :=
  { c with left := c.left.drop n, count := c.count - n }

/-- Take aliases out of use whose texts are used up. -/
def release (c : Cursor) : Cursor :=
  match c.inUse with
  | [] => c
  | use =>
    let (done, inUse) := use.partition fun a => c.count ≤ a.stop
    { c with inUse, aliasNext := c.aliasNext || done.any (·.blank) }

/-- Pass over line feeds behind a backslash. -/
def join (c : Cursor) : Cursor :=
  let rec go : List Char → Cursor → Cursor
    | '\x5c' :: '\n' :: rest, c => go rest { c with left := rest, count := c.count - 2, line := c.line + 1 }
    | _, c => c
  go c.left c

/-- Put the text of an alias before what is left. -/
def putAlias (c : Cursor) (name text : String) : Cursor :=
  let cs := text.toList
  let blank := match cs.getLast? with | some ' ' | some '\t' => true | _ => false
  { c with
    left := cs ++ c.left
    count := c.count + cs.length
    inUse := ⟨name, c.count, blank⟩ :: c.inUse }

/-- The text of an alias that is not in use. -/
def alias? (c : Cursor) (name : String) : Option String :=
  if c.inUse.any (·.name == name) then none else c.aliases.lookup name

end Cursor

namespace Reading

/-- Complain about the line that is being read. -/
def fail (message : String) : Reading α := do
  throw { line := (← get).line, message := "Syntax error: " ++ message }

/-- The next character, as it stands. -/
def peekRaw : Reading (Option Char) := do
  modify Cursor.release
  return (← get).left.head?

/-- The next character. -/
def peek : Reading (Option Char) := do
  modify fun c => c.join.release
  return (← get).left.head?

/-- Pass over so many characters. -/
def skip (n : Nat) : Reading Unit :=
  modify (·.drop n)

/-- Read a character, as it stands. -/
def nextRaw : Reading (Option Char) := do
  let c ← peekRaw
  if c.isSome then skip 1
  return c

/-- Read a character. -/
def next : Reading (Option Char) := do
  let c ← peek
  if c.isSome then skip 1
  return c

/-- Tell that a line has ended. -/
def countLine : Reading Unit :=
  modify fun c => { c with line := c.line + 1 }

/-- Read characters of a kind, up to so many. -/
def takeWhile (p : Char → Bool) : Nat → Reading (List Char)
  | 0 => return []
  | fuel + 1 => do
    match ← peek with
    | some c =>
      if p c then
        skip 1
        return c :: (← takeWhile p fuel)
      else return []
    | none => return []

/-- Pass over the rest of a line. -/
def skipLine : Reading Unit :=
  modify fun c =>
    let rest := c.left.dropWhile (· != '\n')
    { c with left := rest, count := rest.length }

end Reading

end Ensemble.Shell
