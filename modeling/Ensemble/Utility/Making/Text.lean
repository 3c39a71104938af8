import Ensemble.Text.Lines

/-!
# Ensemble.Utility.Making.Text

**Texts in makefiles**: words; characters from which backslashes take the meaning; patterns with one
`%` that stands for any text; and the parts of the names of files.
-/

namespace Ensemble.Utility.Making

def isBlank (c : Char) : Bool :=
  c == ' ' || c == '\t'

def isSpace (c : Char) : Bool :=
  c == ' ' || (0x9 ≤ c.toNat && c.toNat ≤ 0xD)

/-! ### Words -/

/-- Cut a text at characters of a kind. -/
def wordsAt (cuts : Char → Bool) : List Char → List Char → List (List Char)
  | [], word => if word.isEmpty then [] else [word.reverse]
  | c :: cs, word =>
    if cuts c then (if word.isEmpty then [] else [word.reverse]) ++ wordsAt cuts cs []
    else wordsAt cuts cs (c :: word)

/-- The words of a text. -/
def words (s : String) : List String :=
  (wordsAt isSpace s.toList []).map String.ofList

def unwords (ws : List String) : String :=
  " ".intercalate ws

/-- A text without blanks at its ends. -/
def trimmed (cs : List Char) : List Char :=
  ((cs.dropWhile isSpace).reverse.dropWhile isSpace).reverse

/-- The first word of a text, and what is behind it. -/
def firstWord (text : List Char) : String × List Char :=
  let text := text.dropWhile isSpace
  let word := text.takeWhile (!isSpace ·)
  (.ofList word, (text.drop word.length).dropWhile isSpace)

/-- A part of a text from one word to another, with the blanks between them as they are. -/
def wordRange (first count : Nat) (text : List Char) : List Char :=
  let rec go : Nat → List Char → List Char
    | 0, text => text
    | n + 1, text => go n ((text.dropWhile isSpace).dropWhile (!isSpace ·))
  let start := (go (first - 1) text).dropWhile isSpace
  start.take (start.length - (go count start).length)

/-! ### Characters without their meaning -/

/-- A run of backslashes before a character that means something stands for half as many; an odd one
takes the meaning away. The answer is what is left before the character, reversed as it is given, and
whether it has its meaning. -/
def halved (before : List Char) : List Char × Bool :=
  let n := (before.takeWhile (· == '\x5c')).length
  (before.drop (n - n / 2), n % 2 == 0)

def closingOf (opening : Char) : Char :=
  if opening == '(' then ')' else '\x7d'

/-- The text up to a closing character, and what is behind it. -/
def upToClosing (opening : Char) : Nat → List Char → List Char → Option (List Char × List Char)
  | _, [], _ => none
  | depth, c :: cs, inside =>
    if c == closingOf opening then
      match depth with
      | 0 => some (inside.reverse, cs)
      | depth + 1 => upToClosing opening depth cs (c :: inside)
    else upToClosing opening (if c == opening then depth + 1 else depth) cs (c :: inside)

/-- Cut a text at the first character of a kind that has its meaning, given what stands before the
text, reversed. -/
def cutFrom (isSought : Char → Bool) (passes : Bool) :
    Nat → List Char → List Char → List Char × Option (Char × List Char)
  | 0, cs, before => (before.reverse ++ cs, none)
  | _, [], before => (before.reverse, none)
  | fuel + 1, c :: cs, before =>
    if passes && c == '$' then
      match cs with
      | [] => ((c :: before).reverse, none)
      | d :: ds =>
        if d == '(' || d == '\x7b' then
          match upToClosing d 0 ds [] with
          | none => ((c :: before).reverse ++ cs, none)
          | some (inside, rest) =>
            cutFrom isSought passes fuel rest (closingOf d :: (inside.reverse ++ d :: c :: before))
        else cutFrom isSought passes fuel ds (d :: c :: before)
    else if isSought c then
      match halved before with
      | (before, true) => (before.reverse, some (c, cs))
      | (before, false) => cutFrom isSought passes fuel cs (c :: before)
    else cutFrom isSought passes fuel cs (c :: before)

/-- Cut a text at the first character of a kind that has its meaning. -/
def cutAt (isSought : Char → Bool) (text : List Char) : List Char × Option (Char × List Char) :=
  cutFrom isSought false (text.length + 1) text []

/-- The same, outside of references. -/
def cutOutside (isSought : Char → Bool) (text : List Char) : List Char × Option (Char × List Char) :=
  cutFrom isSought true (text.length + 1) text []

/-- A line without its comment. -/
def uncommented (line : List Char) : List Char :=
  (cutOutside (· == '#') line).1

/-- A name without the directory of now before it. -/
def withoutHere : Nat → List Char → List Char
  | 0, cs => cs
  | fuel + 1, '.' :: '/' :: c :: cs => withoutHere fuel ((c :: cs).dropWhile (· == '/'))
  | _, cs => cs

/-- A name as files are known by. -/
def fileName (name : List Char) : String :=
  let short := withoutHere (name.length + 1) name
  .ofList (if short.isEmpty && !name.isEmpty then ['.', '/'] else short)

/-- The names in a text up to a character of a kind, and what stands from there on. A backslash takes
the meaning from a blank. -/
def namesUpTo (stops : Char → Bool) : Nat → List Char → List (List Char) → List (List Char) × List Char
  | 0, cs, names => (names.reverse, cs)
  | fuel + 1, cs, names =>
    match cs.dropWhile isSpace with
    | [] => (names.reverse, [])
    | c :: cs =>
      if stops c then (names.reverse, c :: cs)
      else
        match cutAt (fun c => isBlank c || stops c) (c :: cs) with
        | (name, none) => ((name :: names).reverse, [])
        | (name, some (stop, rest)) => namesUpTo stops fuel (stop :: rest) (name :: names)

/-- The names in a text. -/
def namesIn (text : List Char) : List (List Char) :=
  (namesUpTo (fun _ => false) (text.length + 1) text []).1

/-- Join lines that go on, which is said by a backslash at the end of a line. -/
def flattened (isPosix : Bool) : Nat → List Char → List Char → List Char
  | 0, cs, before => before.reverse ++ cs
  | _, [], before => before.reverse
  | fuel + 1, '\n' :: cs, before =>
    match halved before with
    | (before, true) => flattened isPosix fuel cs ('\n' :: before)
    | (before, false) =>
      let before := if isPosix then before else before.dropWhile isBlank
      flattened isPosix fuel (cs.dropWhile isBlank) (' ' :: before)
  | fuel + 1, c :: cs, before => flattened isPosix fuel cs (c :: before)

/-! ### Patterns -/

/-- A pattern of words. -/
inductive Pattern
  | word (text : List Char)
  /-- Any text between two others. -/
  | around (before after : List Char)
deriving DecidableEq, Repr

namespace Pattern

/-- A backslash takes the meaning from the mark of a pattern. -/
def ofChars (cs : List Char) : Pattern :=
  match cutAt (· == '%') cs with
  | (text, none) => .word text
  | (before, some (_, after)) => .around before after

def ofString (s : String) : Pattern :=
  ofChars s.toList

def isProper : Pattern → Bool
  | .word _ => false
  | .around .. => true

def text : Pattern → String
  | .word text => .ofList text
  | .around before after => .ofList (before ++ '%' :: after)

/-- What the mark of a pattern stands for in a word, if the pattern fits. -/
def stem? (p : Pattern) (word : String) : Option String :=
  match p with
  | .word _ => none
  | .around before after =>
    let cs := word.toList
    if before.length + after.length ≤ cs.length && before.isPrefixOf cs && after.isSuffixOf cs then
      some (.ofList ((cs.drop before.length).take (cs.length - before.length - after.length)))
    else none

def fits (p : Pattern) (word : String) : Bool :=
  match p with
  | .word text => text == word.toList
  | p => (p.stem? word).isSome

/-- A pattern with a text for its mark. -/
def filled (p : Pattern) (stem : String) : String :=
  match p with
  | .word text => .ofList text
  | .around before after => .ofList before ++ stem ++ .ofList after

end Pattern

/-- A text in which a part stands for each of its places; where only whole words count, others are
left. -/
def replaced (wholeWords : Bool) (part new : List Char) : Nat → Option Char → List Char → List Char
  | 0, _, cs => cs
  | _, _, [] => []
  | fuel + 1, before, c :: cs =>
    if part.isPrefixOf (c :: cs) then
      let rest := (c :: cs).drop part.length
      let isWhole := (before.map isSpace).getD true && (rest.head?.map isSpace).getD true
      (if wholeWords && !isWhole then part else new) ++
        replaced wholeWords part new fuel part.getLast? rest
    else c :: replaced wholeWords part new fuel (some c) cs

/-- A text with a new one for a part of it. -/
def substituted (part new text : String) : String :=
  if part = "" then text ++ new
  else .ofList (replaced false part.toList new.toList (text.length + 1) none text.toList)

/-- A text with new words for those that a pattern fits. -/
def exchanged (p new : Pattern) (text : String) : String :=
  match p with
  | .word [] => text ++ new.text
  | .word part =>
    .ofList (replaced true part new.text.toList (text.length + 1) none text.toList)
  | p =>
    unwords ((words text).filterMap fun w =>
      match p.stem? w with
      | none => some w
      | some stem => if new = .word [] then none else some (new.filled stem))

/-! ### Names of files -/

/-- A path up to its last slash, and what is behind it. -/
def pathSplit (path : String) : String × String :=
  let (base, dir) := path.toList.reverse.span (· != '/')
  (.ofList dir.reverse, .ofList base.reverse)

/-- A path without its suffix, and the suffix. -/
def suffixSplit (path : String) : String × String :=
  let (dir, base) := pathSplit path
  let (ending, front) := base.toList.reverse.span (· != '.')
  match front with
  | [] => (path, "")
  | _ :: front => (dir ++ .ofList front.reverse, "." ++ .ofList ending.reverse)

/-- The directory of a path. -/
def directoryPart (path : String) : String :=
  match pathSplit path with
  | ("", _) => "./"
  | (dir, _) => dir

/-- The path that leads to a place from the root, as the names say. -/
def absolutePath (here path : String) : String :=
  let parts := (if path.startsWith "/" then path else here ++ "/" ++ path).splitOn "/"
  let kept := parts.foldl (fun kept part =>
    if part = "" || part = "." then kept else if part = ".." then kept.drop 1 else part :: kept) []
  "/" ++ "/".intercalate kept.reverse

/-- Cut the arguments of a function at commas, at most so many times. -/
def argumentsFrom (opening : Char) : Nat → Nat → List Char → List Char → List (List Char)
  | _, _, [], word => [word.reverse]
  | most, depth, c :: cs, word =>
    if c == ',' && depth = 0 && 0 < most then word.reverse :: argumentsFrom opening (most - 1) 0 cs []
    else
      let depth := if c == opening then depth + 1 else if c == closingOf opening then depth - 1 else depth
      argumentsFrom opening most depth cs (c :: word)

end Ensemble.Utility.Making
