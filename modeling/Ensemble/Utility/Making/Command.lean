import Ensemble.Utility.Making.Book
import Ensemble.Utility.Names

/-!
# Ensemble.Utility.Making.Command

**How commands are started.** A line in which nothing has a meaning for a shell is cut into words, and
its program is started at once; any other line is given to a shell.
-/

namespace Ensemble.Utility.Making

/-- Words that only a shell understands. -/
def shellWords : List String :=
  [".", ":", "alias", "bg", "break", "case", "cd", "command", "continue", "eval", "exec", "exit",
    "export", "fc", "fg", "for", "getopts", "hash", "if", "jobs", "login", "logout", "read",
    "readonly", "return", "set", "shift", "test", "times", "trap", "type", "ulimit", "umask",
    "unalias", "unset", "wait", "while"]

/-- Characters that mean something to a shell. -/
def shellCharacters : List Char :=
  "#;\"*?[]&|<>()\x7b\x7d$\x60^~!".toList

/-- The words of a command, if no shell is needed for it: those that are done, the last first, and the
one that is open. -/
def plainWords (isQuoted : Bool) :
    Nat → List Char → List (List Char) → Option (List Char) → Option (List String)
  | 0, _, _, _ => none
  | _, [], done, opened =>
    if isQuoted then none
    else some ((opened.toList ++ done).reverse.map fun w => String.ofList w.reverse)
  | fuel + 1, '\x5c' :: '\n' :: cs, done, opened =>
    if isQuoted then plainWords true fuel cs done (some ('\n' :: '\x5c' :: opened.getD []))
    else plainWords false fuel (if opened.isNone then cs.dropWhile isBlank else cs) done opened
  | fuel + 1, c :: cs, done, opened =>
    if isQuoted then
      if c == '\x27' then plainWords false fuel cs done opened
      else plainWords true fuel cs done (some (c :: opened.getD []))
    else if c == '\x27' then plainWords true fuel cs done (some (opened.getD []))
    else if isBlank c then plainWords false fuel cs (opened.toList ++ done) none
    else if c == '\x5c' then
      match cs with
      | [] => plainWords false fuel [] done opened
      | d :: ds => plainWords false fuel ds done (some (d :: opened.getD []))
    else if shellCharacters.contains c || c == '=' && done.isEmpty then none
    else plainWords false fuel cs done (some (c :: opened.getD []))

/-- Is a program a shell of the usual kind? -/
def isUsualShell (path : String) : Bool :=
  ["sh", "bash", "dash", "ksh", "rksh", "zsh", "ash"].contains (pathSplit path).2

/-- The lines of a text that is run as one, without the marks before each. -/
def unmarkedLines : Nat → Bool → List Char → List Char
  | 0, _, cs => cs
  | _, _, [] => []
  | fuel + 1, isStart, cs =>
    let cs := if isStart then
        cs.dropWhile fun c => isBlank c || c == '-' || c == '@' || c == '+'
      else cs
    match cs with
    | [] => []
    | '\x5c' :: c :: rest => '\x5c' :: c :: unmarkedLines fuel false rest
    | c :: rest => c :: unmarkedLines fuel (c == '\n') rest

/-- How a command is started, given the shell and the words that stand before a command for it; an
empty command is not started at all. -/
def commandWords (shell flags : String) (isOneShell : Bool) (command : List Char) : List String :=
  let command := command.dropWhile isBlank
  if command.isEmpty then []
  else
    let shellWith (text : List Char) : List String :=
      let parts := words shell
      (if parts.isEmpty then ["/bin/sh"] else parts) ++ words flags ++ [.ofList text]
    let isPlain := (shell = "/bin/sh" || shell = "") && (flags = "-c" || flags = "-ec") &&
      !(isOneShell && command.contains '\n')
    match if isPlain then plainWords false (command.length + 1) command [] none else none with
    | some (w :: ws) => if shellWords.contains w then shellWith command else w :: ws
    | some [] => []
    | none =>
      if isOneShell && isUsualShell shell then
        shellWith (unmarkedLines (command.length + 1) true command)
      else shellWith command

/-- Start a command, given what comes before it is started. -/
def startCommand (args bindings : List String) : Making Nat := do
  let name := (← get).name
  startProcess args bindings fun e => do
    sayError (name ++ ": " ++ args.headD "" ++ ": " ++ e.message ++ "\n")
    return 127

/-- What a command writes, and how it ends. -/
def commandOutput (args bindings : List String) : Making (String × Ending) := do
  flush
  let (source, target) ← ask .pipe
  let name := (← get).name
  let d ← getThe Desk
  let act : Tool Nat := do
    let _ ← ask (.duplicate target 1)
    let _ ← ask (.close source)
    let _ ← ask (.close target)
    let e ← goOn args bindings
    sayError (name ++ ": " ++ args.headD "" ++ ": " ++ e.message ++ "\n")
    return 127
  let child ← StateT.lift (StateT.lift (Doing.fork (Doing.toProcess do
    let (status, _) ← act.run { d with pieces := [], size := 0 }
    return status % 256)))
  let _ ← ask (.close target)
  let result ← readRest source readLimit []
  let _ ← ask (.close source)
  let ending ←
    match ← ask (.wait (some child) true false) with
    | .ended _ ending => pure ending
    | _ => pure (.exited 127)
  match result with
  | .ok text => return (text, ending)
  | .error _ => return ("", ending)

/-- A text on one line: its last line ends are left out, and blanks stand for the others. -/
def onOneLine (text : String) : String :=
  let rec go : List Char → List Char
    | '\x0d' :: '\n' :: cs => ' ' :: go cs
    | c :: cs => (if c == '\n' then ' ' else c) :: go cs
    | [] => []
  let rec bared : List Char → List Char
    | '\n' :: '\x0d' :: cs => bared cs
    | '\n' :: cs => bared cs
    | cs => cs
  .ofList (go (bared text.toList.reverse).reverse)

end Ensemble.Utility.Making
