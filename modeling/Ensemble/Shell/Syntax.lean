/-!
# Ensemble.Shell.Syntax

What a **shell script** is made of. A word is a list of `Piece`s. How a character was quoted stays
with it, because quoting decides later whether a word is split and whether its `*` is a pattern;
quotation marks stay in the word too, for a word that holds them is a word even if it is empty.

A script is a `Command`: the commands of a list are joined by `Command.sequence`.
-/

namespace Ensemble.Shell

/-- A cut that takes off what matches a pattern. -/
structure Cut where
  /-- At the end, and not at the beginning? -/
  atEnd : Bool
  /-- As much as can be matched, and not as little? -/
  longest : Bool
deriving DecidableEq, Repr

/-- What is done with the value of a parameter. -/
inductive Treatment
  /-- The word stands in if there is no value. -/
  | orElse
  /-- The word is assigned and stands in if there is no value. -/
  | orAssign
  /-- The word is told if there is no value, and the shell gives up. -/
  | orComplain
  /-- The word stands in if there is a value. -/
  | ifThere
  /-- What the word matches is cut off. -/
  | without (cut : Cut)
  /-- The length of the value. -/
  | size
  /-- This has no meaning. -/
  | senseless
deriving DecidableEq, Repr

/-- Where in a value a pattern has to be found. -/
inductive Anchor
  | anywhere
  | start
  | finish
deriving DecidableEq, Repr

/-- What is done with the value, or the values, that a name and a place in it stand for. -/
inductive Action
  | value
  /-- The length of the value, or the number of values. -/
  | size
  /-- The places that there are. -/
  | places
  | given (how : Treatment) (emptyToo : Bool)
  /-- A part, from an offset on; up to a length, if there is one. -/
  | slice (hasLength : Bool)
  /-- What matches a pattern is replaced. -/
  | replace (all : Bool) (anchor : Anchor)
  /-- Letters become great or small, or what they are not: all that match a pattern, or the first. -/
  | recase (great : Option Bool) (all : Bool)
  /-- The value in another form, which a letter names. -/
  | reshape (form : Char)
  /-- The names of variables that begin like this. -/
  | names
  /-- This has no meaning; it is told as it was written. -/
  | senseless (written : String)
deriving DecidableEq, Repr

/-- Which values are meant, and how. -/
structure Reach where
  /-- Is the value the name of what is meant? -/
  indirect : Bool := false
  /-- Are all values meant: each by itself, or joined? -/
  all : Option Bool := none
  action : Action := .value
deriving DecidableEq, Repr

/-- How the choice goes on behind an arm that was run. -/
inductive ArmEnd
  | leave
  /-- With the next arm, whatever its patterns. -/
  | through
  /-- With the patterns behind it. -/
  | onward
deriving DecidableEq, Repr

/-- What a redirection does with the file that it names. -/
inductive RedirectKind
  | input
  | output
  /-- Output to a file even if there is one that is to be kept. -/
  | overwrite
  | append
  | both
deriving DecidableEq, Repr

mutual

/-- A part of a word. -/
inductive Piece where
  /-- Characters that are not quoted. -/
  | plain (s : List Char)
  /-- Characters that stand for themselves. -/
  | quoted (s : List Char)
  /-- A quotation mark: what is behind it is quoted, up to the next one. -/
  | mark
  /-- The value of a parameter. -/
  | parameter (name : String)
  /-- The value of a parameter, treated with a word; an empty value can count as none. -/
  | treated (name : String) (how : Treatment) (emptyToo : Bool) (word : List Piece)
  /-- The output of a script. -/
  | output (script : Command)
  /-- The value of an arithmetic expression. -/
  | sum (expression : List Piece)
  /-- What is reached through a name, a place in it, and the words of an action. -/
  | reached (name : String) (how : Reach) (place first second : List Piece)
  /-- The place that is assigned to, behind a name. -/
  | place (word : List Piece)
  /-- The values that are assigned together. -/
  | elements (items : List (List Piece))
  /-- A path through which the output of a script is read, or its input written. -/
  | channel (reads : Bool) (script : Command)
  /-- How the word was written. -/
  | written (s : String)

/-- Where a descriptor is led to. -/
inductive Redirect where
  | file (fd : Nat) (kind : RedirectKind) (word : List Piece)
  /-- To where another descriptor leads. -/
  | copy (fd source : Nat)
  | close (fd : Nat)
  /-- To where the descriptor leads that a word names. -/
  | copyNamed (fd : Nat) (word : List Piece)
  /-- To a text that stands in the script, by its number. -/
  | document (fd number : Nat)
  /-- To a word and a line feed. -/
  | content (fd : Nat) (word : List Piece)
  /-- The shell chooses the descriptor, and gives it to a name. -/
  | chosen (name : String) (r : Redirect)

/-- A condition between double brackets. -/
inductive Test where
  | unary (operator : String) (word : List Piece)
  | binary (operator : String) (first second : List Piece)
  | negated (t : Test)
  | both (a b : Test)
  | either (a b : Test)

/-- A command. Numbers of lines tell where it begins. -/
inductive Command where
  | nothing
  /-- Assignments, words and redirections. -/
  | simple (line : Nat) (assigns words : List (List Piece)) (redirects : List Redirect)
  | define (line : Nat) (name : String) (body : Command)
  | redirected (line : Nat) (body : Command) (redirects : List Redirect)
  | subshell (line : Nat) (body : Command) (redirects : List Redirect)
  | background (line : Nat) (body : Command) (redirects : List Redirect)
  | pipeline (commands : List Command) (background : Bool)
  | negated (c : Command)
  | also (a b : Command)
  | either (a b : Command)
  | sequence (a b : Command)
  /-- A command between braces. -/
  | grouped (c : Command)
  | choice (test yes no : Command)
  /-- A loop that goes on while its test succeeds, or until it does. -/
  | loop (untilTrue : Bool) (test body : Command)
  | each (line : Nat) (name : String) (words : List (List Piece)) (body : Command)
  /-- The first arm with a matching pattern is run. -/
  | select (line : Nat) (subject : List Piece) (arms : List (List (List Piece) × Command × ArmEnd))
  | condition (line : Nat) (test : Test)
  /-- An arithmetic expression that is asked whether it is zero. -/
  | arithmetic (line : Nat) (expression : List Piece)
  /-- A loop with expressions before it, before each round, and after each round. -/
  | counted (line : Nat) (start test step : List Piece) (body : Command)
  /-- A loop over words that are chosen from a list. -/
  | menu (line : Nat) (name : String) (words : List (List Piece)) (body : Command)
  /-- A command whose time is told, in the common form or in the plain one. -/
  | timed (plain : Bool) (c : Command)

end

instance : Inhabited Command := ⟨.nothing⟩

instance : Inhabited Piece := ⟨.mark⟩

/-- A word, as written. -/
abbrev Word := List Piece

namespace Word

/-- The characters of a word that holds nothing else and in which nothing is quoted. -/
def plainText? : Word → Option (List Char)
  | [] => some []
  | .written _ :: ps => plainText? ps
  | .plain s :: ps => (plainText? ps).map (s ++ ·)
  | _ => none

/-- Is any of the word quoted? -/
def isQuoted (w : Word) : Bool :=
  w.any fun
    | .mark | .quoted _ => true
    | _ => false

/-- The characters of a word, as far as they stand for themselves. -/
def literalText (w : Word) : List Char :=
  w.flatMap fun
    | .plain s | .quoted s => s
    | _ => []

/-- How the word was written. -/
def source (w : Word) : String :=
  (w.findSome? fun
    | .written s => some s
    | _ => none).getD (.ofList w.literalText)

/-- The word of all positional parameters, each by itself. -/
def allParameters : Word :=
  [.mark, .parameter "@", .mark]

end Word

/-- The commands of a shell that no function can have the name of. When one of them is used wrongly,
the shell ends. -/
def specialCommands : List String :=
  [".", ":", "break", "continue", "eval", "exec", "exit", "export", "local", "readonly", "return",
    "set", "shift", "times", "trap", "unset"]

/-- May a name begin like this? -/
def isNameStart (c : Char) : Bool :=
  c.isAlpha || c == '_'

/-- May a name go on like this? -/
def isNameChar (c : Char) : Bool :=
  isNameStart c || c.isDigit

/-- Is this a name that a variable can have? -/
def isName : List Char → Bool
  | [] => false
  | c :: cs => isNameStart c && cs.all isNameChar

/-- A name and what stands behind the equals sign at its end. -/
def nameAndRest? (cs : List Char) : Option (List Char × List Char) :=
  let name := cs.takeWhile isNameChar
  match cs.drop name.length with
  | '=' :: rest => if isName name then some (name, rest) else none
  | _ => none

/-- Does the word begin like an assignment? -/
def Word.isAssignment : Word → Bool
  | .plain s :: _ => (nameAndRest? s).isSome
  | _ => false

end Ensemble.Shell
