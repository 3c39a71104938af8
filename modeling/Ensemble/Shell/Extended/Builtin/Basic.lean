import Ensemble.Shell.Builtin.Basic
import Ensemble.Shell.Process

/-!
# Ensemble.Shell.Extended.Builtin.Basic

What the **commands of the shell's own share in the extended dialect**. Used wrongly, such a command tells
what is wrong and how it is used; the script goes on.
-/

/-! ### Assignments

**Assignments of the extended dialect**: to a name or to a place behind it, of one value or of many, which
can be added to what is there. A word is taken apart into a `Binding`; a `Setting` is a binding whose words
have been expanded.
-/

namespace Ensemble.Shell.Extended

/-- An assignment, as written. -/
structure Binding where
  name : String
  place : Option Word := none
  appends : Bool := false
  value : Word
  /-- All of the word, as written. -/
  written : String

/-- A value that is assigned. -/
inductive AssignedValue
  | one (text : String)
  | many (items : List Item)

/-- An assignment. -/
structure Setting where
  name : String
  place : Option String := none
  appends : Bool := false
  value : AssignedValue

namespace Binding

/-- The name before a mark, and whether the mark adds. -/
def lead? (cs : List Char) : Option (List Char × Bool × List Char) :=
  let name := cs.takeWhile isNameChar
  match cs.drop name.length with
  | '=' :: rest => some (name, false, rest)
  | '+' :: '=' :: rest => some (name, true, rest)
  | _ => none

/-- The assignment that a word is. -/
def ofWord? (w : Word) : Option Binding :=
  match w with
  | .plain cs :: .place place :: .plain ds :: rest =>
    match lead? ds with
    | some ([], appends, ds) =>
      if isName cs then some ⟨.ofList cs, some place, appends, .plain ds :: rest, Word.source w⟩ else none
    | _ => none
  | .plain cs :: rest =>
    match lead? cs with
    | some (name, appends, cs) =>
      if isName name then some ⟨.ofList name, none, appends, .plain cs :: rest, Word.source w⟩ else none
    | none => none
  | _ => none

/-- The text of a value, which a home directory can begin. -/
def valueText (run : Expansion.Scripts) (value : Word) : Act String := do
  return .ofList (Field.text (← Expansion.word run { home := true, homes := true } true true false value))

/-- The items of a word between parentheses. -/
def itemsOf (run : Expansion.Scripts) (w : Word) : Act (List Item) := do
  let placed (place : Word) (ds : List Char) (rest : Word) : Act (List Item) := do
    match lead? ds with
    | some (_, appends, ds) => do
      let key ← Expansion.text run {} place
      return [{ place := some key, appends, value := ← valueText run (.plain ds :: rest) }]
    | none => return []
  match w with
  | .place place :: .plain ds :: rest => placed place ds rest
  | w => do
    return (← Expansion.texts run [w]).map fun value => { place := none, value }

/-- Expand the words of an assignment. -/
def expand (run : Expansion.Scripts) (b : Binding) : Act Setting := do
  let place ← match b.place with
    | some w => some <$> Expansion.text run {} w
    | none => pure none
  let items? := b.value.findSome? fun
    | .elements ws => some ws
    | _ => none
  match items? with
  | some ws => do
    let items ← ws.mapM (itemsOf run)
    return ⟨b.name, place, b.appends, .many items.flatten⟩
  | none => return ⟨b.name, place, b.appends, .one (← valueText run b.value)⟩

/-- What stands between the parentheses of many values, as written. -/
def itemsText (b : Binding) : String :=
  .ofList (((b.written.toList.dropWhile (· != '(')).drop 1).dropLast)

end Binding

namespace Setting

/-- The name and the place that a setting is for. -/
def target (s : Setting) : String :=
  s.name ++ match s.place with | some key => "[" ++ key ++ "]" | none => ""

/-- What stands between the target and the value. -/
def mark (s : Setting) : String :=
  if s.appends then "+=" else "="

/-- The setting as one word. -/
def text (s : Setting) : String :=
  match s.value with
  | .one value => s.target ++ s.mark ++ value
  | .many _ => s.target

/-- The items, as they are traced. -/
def itemsText (items : List Item) : String :=
  " ".intercalate (items.map fun i =>
    (match i.place with
    | some key => "[" ++ Quoting.single key ++ "]" ++ (if i.appends then "+=" else "=")
    | none => "") ++ Quoting.single i.value)

/-- Assign. -/
def apply (s : Setting) : Act Unit := do
  match s.value, s.place with
  | .one value, place => assignTo s.name place s.appends value
  | .many items, none => assignAll s.name s.appends items
  | .many _, some key => drop (s.name ++ "[" ++ key ++ "]: cannot assign list to array member")

end Setting

end Ensemble.Shell.Extended

/-! ### What the commands share -/

namespace Ensemble.Shell.Extended

/-- How commands are used. -/
def usages : List (String × String) :=
  [("alias", "alias [-p] [name[=value] ... ]"), ("bg", "bg [job_spec ...]"),
    ("bind", "bind [-lpsvPSVX] [-m keymap] [-f filename] [-q name] [-u name] [-r keyseq] " ++
      "[-x keyseq:shell-command] [keyseq:readline-function or readline-command]"),
    ("break", "break [n]"), ("builtin", "builtin [shell-builtin [arg ...]]"), ("caller", "caller [expr]"),
    ("cd", "cd [-L|[-P [-e]] [-@]] [dir]"), ("command", "command [-pVv] command [arg ...]"),
    ("compgen", "compgen [-abcdefgjksuv] [-o option] [-A action] [-G globpat] [-W wordlist] [-F function] " ++
      "[-C command] [-X filterpat] [-P prefix] [-S suffix] [word]"),
    ("complete", "complete [-abcdefgjksuv] [-pr] [-DEI] [-o option] [-A action] [-G globpat] [-W wordlist] " ++
      "[-F function] [-C command] [-X filterpat] [-P prefix] [-S suffix] [name ...]"),
    ("compopt", "compopt [-o|+o option] [-DEI] [name ...]"), ("continue", "continue [n]"),
    ("declare", "declare [-aAfFgiIlnrtux] [name[=value] ...] or declare -p [-aAfFilnrtux] [name ...]"),
    ("dirs", "dirs [-clpv] [+N] [-N]"), ("disown", "disown [-h] [-ar] [jobspec ... | pid ...]"),
    ("enable", "enable [-a] [-dnps] [-f filename] [name ...]"), ("eval", "eval [arg ...]"),
    ("exec", "exec [-cl] [-a name] [command [argument ...]] [redirection ...]"), ("exit", "exit [n]"),
    ("export", "export [-fn] [name[=value] ...] or export -p"),
    ("fc", "fc [-e ename] [-lnr] [first] [last] or fc -s [pat=rep] [command]"), ("fg", "fg [job_spec]"),
    ("getopts", "getopts optstring name [arg ...]"), ("hash", "hash [-lr] [-p pathname] [-dt] [name ...]"),
    ("help", "help [-dms] [pattern ...]"),
    ("history", "history [-c] [-d offset] [n] or history -anrw [filename] or history -ps arg [arg...]"),
    ("jobs", "jobs [-lnprs] [jobspec ...] or jobs -x command [args]"),
    ("kill", "kill [-s sigspec | -n signum | -sigspec] pid | jobspec ... or kill -l [sigspec]"),
    ("let", "let arg [arg ...]"), ("local", "local [option] name[=value] ..."), ("logout", "logout [n]"),
    ("mapfile", "mapfile [-d delim] [-n count] [-O origin] [-s count] [-t] [-u fd] [-C callback] " ++
      "[-c quantum] [array]"),
    ("popd", "popd [-n] [+N | -N]"), ("printf", "printf [-v var] format [arguments]"),
    ("pushd", "pushd [-n] [+N | -N | dir]"), ("pwd", "pwd [-LP]"),
    ("read", "read [-ers] [-a array] [-d delim] [-i text] [-n nchars] [-N nchars] [-p prompt] [-t timeout] " ++
      "[-u fd] [name ...]"),
    ("readarray", "readarray [-d delim] [-n count] [-O origin] [-s count] [-t] [-u fd] [-C callback] " ++
      "[-c quantum] [array]"),
    ("readonly", "readonly [-aAf] [name[=value] ...] or readonly -p"), ("return", "return [n]"),
    ("set", "set [-abefhkmnptuvxBCEHPT] [-o option-name] [--] [-] [arg ...]"), ("shift", "shift [n]"),
    ("shopt", "shopt [-pqsu] [-o] [optname ...]"), ("source", "source filename [arguments]"),
    (".", ". filename [arguments]"), ("suspend", "suspend [-f]"), ("times", "times"),
    ("trap", "trap [-lp] [[arg] signal_spec ...]"), ("type", "type [-afptP] name [name ...]"),
    ("typeset", "typeset [-aAfFgiIlnrtux] name[=value] ... or typeset -p [-aAfFilnrtux] [name ...]"),
    ("ulimit", "ulimit [-SHabcdefiklmnpqrstuvxPRT] [limit]"), ("umask", "umask [-p] [-S] [mode]"),
    ("unalias", "unalias [-a] name [name ...]"), ("unset", "unset [-f] [-v] [-n] [name ...]"),
    ("wait", "wait [-fn] [-p var] [id ...]")]

/-- Tell how the command that runs is used, and give up. -/
def showUsage : Act α := do
  let name := (← get).speaker.getD ""
  (usages.lookup name).forM fun usage => complain (name ++ ": usage: " ++ usage)
  fail 2

/-- Complain, tell how the command that runs is used, and give up. -/
def misuse (told : String) : Act α := do
  complainAt told
  showUsage

namespace Options

/-- Take the letters of one word; what `valued` holds takes the rest of the word or the next one. -/
def letters (plain valued : List Char) :
    List Char → Shell.Given → List String → Act (Shell.Given × List String)
  | [], g, args => return (g, args)
  | c :: cs, g, args => do
    let g' := { g with letters := g.letters ++ [c] }
    if plain.contains c then letters plain valued cs g' args
    else if valued.contains c then
      match cs, args with
      | [], v :: args => return ({ g' with values := (c, v) :: g.values }, args)
      | [], [] => misuse ("-" ++ c.toString ++ ": option requires an argument")
      | cs, args => return ({ g' with values := (c, .ofList cs) :: g.values }, args)
    else misuse ("-" ++ c.toString ++ ": invalid option")

def take (plain valued : List Char) : Nat → Shell.Given → List String → Act Shell.Given
  | 0, g, args => return { g with operands := args }
  | _, g, [] => return g
  | fuel + 1, g, a :: args => do
    match a.toList with
    | ['-', '-'] => return { g with operands := args }
    | '-' :: c :: cs => do
      let (g, args) ← letters plain valued (c :: cs) g args
      take plain valued fuel g args
    | _ => return { g with operands := a :: args }

end Options

/-- A command whose options have these letters; some of them have values. -/
def withOptions (plain valued : String) (go : Shell.Given → Act Nat) : Own := fun args => do
  go (← Options.take plain.toList valued.toList (args.length + 1) {} args)

/-- The number that a text stands for. -/
def number? (text : String) : Option Int :=
  if text.toList.any Char.isDigit then Numeral.whole? 10 text else none

/-- Complain about what is no name. -/
def notName (text : String) : Act Unit :=
  complainAt ("\x60" ++ text ++ "': not a valid identifier")

/-- Is this the name of a variable, or of a place in one? -/
def isTarget (text : String) : Bool :=
  isName ((nameAndPlace text).1).toList

/-- Do something for each of many; the status is 1 if one of them fails. -/
def eachOf (xs : List α) (go : α → Act Bool) : Act Nat := do
  let done ← xs.mapM go
  return if done.all id then 0 else 1

/-- Do something, and hold a line that is dropped by it: is it done? -/
def surviving (act : Act Unit) : Act Bool := do
  match ← holding act with
  | .ok () => return true
  | .error .dropped => return false
  | .error e => throw e

end Ensemble.Shell.Extended
