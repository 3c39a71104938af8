import Ensemble.Dispatch

/-!
# Ensemble.CommandLine

The **command line**: options, and at most one command. The options may stand before the command
and behind it; behind it they weigh more. An option that takes a value takes it from the same word
(`--file=x`, `-fx`, `-f=x`) or from the next word, unless that word looks like an option.

A `Level` is one stretch of the line: all of it up to the command, or what follows the command. On
one level no option may be given twice. A value in a word of its own is looked at late, when the
next option or the end of the level is reached, so an unknown option is reported before it; and a
command's own stretch is read before the values that are left over from the stretch before it.
-/

namespace Ensemble

/-- How much is logged. -/
inductive LogLevel
  | error
  | warn
  | info
  | debug
  | trace
deriving DecidableEq, Repr

/-- What the options of a call say. -/
structure Flags where
  file : Option Path := none
  config : Option Path := none
  tool : Option String := none
  logLevel : Option LogLevel := none
  dryRun : Bool := false
deriving DecidableEq, Repr

/-- A call of the program. -/
structure CommandLine where
  command : Option Command := none
  flags : Flags := {}
deriving DecidableEq, Repr

/-- Why a command line is not carried out. Asking for help or for the version is a reason too. -/
inductive UsageFault
  | unknownArgument
  | invalidSubcommand
  | invalidValue
  | argumentConflict
  | tooManyValues
  | helpWanted
  | versionWanted
deriving DecidableEq, Repr

/-- What is said of a command line that is not carried out; of a wish for something, nothing. -/
def UsageFault.message? : UsageFault → Option String
  | .unknownArgument => some "there is no such argument"
  | .invalidSubcommand => some "there is no such command"
  | .invalidValue => some "the value of an option is not valid"
  | .argumentConflict => some "an option is given twice"
  | .tooManyValues => some "an option takes no value"
  | .helpWanted | .versionWanted => none

namespace CommandLine

/-! ### Options -/

/-- The options that take a value. -/
inductive Valued
  | file
  | config
  | tool
  | logLevel
deriving DecidableEq, Repr

/-- All options. -/
inductive Flag
  | valued (v : Valued)
  | dryRun
  | help
  | version
deriving DecidableEq, Repr

/-- The option of a long name. The version is asked for on the first level only. -/
def ofLong? (first : Bool) : String → Option Flag
  | "file" => some (.valued .file)
  | "config" => some (.valued .config)
  | "tool" => some (.valued .tool)
  | "log-level" => some (.valued .logLevel)
  | "dry-run" => some .dryRun
  | "help" => some .help
  | "version" => if first then some .version else none
  | _ => none

/-- The option of a letter. -/
def ofShort? (first : Bool) : Char → Option Flag
  | 'f' => some (.valued .file)
  | 'h' => some .help
  | 'V' => if first then some .version else none
  | _ => none

/-- The logging level of a word. -/
def levelOf? : String → Option LogLevel
  | "error" => some .error
  | "warn" => some .warn
  | "info" => some .info
  | "debug" => some .debug
  | "trace" => some .trace
  | _ => none

/-- A path may not be empty. -/
def pathOf? (s : String) : Option Path :=
  if s = "" then none else some ⟨s⟩

/-- Set an option that has not been set before. -/
def setOnce (old : Option α) (new : Option α) : Except UsageFault (Option α) :=
  match old, new with
  | some _, _ => .error .argumentConflict
  | none, none => .error .invalidValue
  | none, some a => .ok (some a)

/-- Give an option its value. -/
def Valued.set (v : Valued) (s : String) (f : Flags) : Except UsageFault Flags :=
  match v with
  | .file => return { f with file := ← setOnce f.file (pathOf? s) }
  | .config => return { f with config := ← setOnce f.config (pathOf? s) }
  | .tool => return { f with tool := ← setOnce f.tool (some s) }
  | .logLevel => return { f with logLevel := ← setOnce f.logLevel (levelOf? s) }

/-! ### One level -/

/-- What is known after some words of a level. -/
structure Level where
  /-- Is this the stretch before the command? -/
  first : Bool
  flags : Flags := {}
  /-- An option given in a word of its own, and its value, if the word for it has come. -/
  pending : Option (Valued × Option String) := none

namespace Level

/-- Look at the value that is left over. -/
def settle (l : Level) : Except UsageFault Level :=
  match l.pending with
  | none => .ok l
  | some (_, none) => .error .invalidValue
  | some (v, some s) => do
    let flags ← v.set s l.flags
    return { l with flags, pending := none }

/-- Take an option without a value. -/
def take (l : Level) (flag : Flag) : Except UsageFault Level := do
  let l ← l.settle
  match flag with
  | .dryRun =>
    if l.flags.dryRun then .error .argumentConflict
    else return { l with flags := { l.flags with dryRun := true } }
  | .help => .error .helpWanted
  | .version => .error .versionWanted
  | .valued v => return { l with pending := some (v, none) }

/-- Take an option with its value. -/
def takeWith (l : Level) (v : Valued) (s : String) : Except UsageFault Level := do
  let l ← l.settle
  let flags ← v.set s l.flags
  return { l with flags }

/-- Take a word that begins with two dashes, without them. -/
def takeLong (l : Level) (word : List Char) : Except UsageFault Level :=
  let (name, attached) :=
    match Text.splitFirst '=' word with
    | some (name, value) => (name, some value)
    | none => (word, none)
  match ofLong? l.first (.ofList name), attached with
  | none, _ => .error .unknownArgument
  | some (.valued v), some value => l.takeWith v (.ofList value)
  | some _, some _ => .error .tooManyValues
  | some flag, none => l.take flag

/-- Take the letters of a word that begins with one dash. -/
def takeShort (l : Level) : List Char → Except UsageFault Level
  | [] => .ok l
  | c :: cs =>
    match ofShort? l.first c with
    | none => .error .unknownArgument
    | some (.valued v) =>
      match cs with
      | [] => l.take (.valued v)
      | '=' :: value => l.takeWith v (.ofList value)
      | value => l.takeWith v (.ofList value)
    | some flag => do
      let l ← l.take flag
      l.takeShort cs

end Level

/-! ### The whole line -/

/-- The command of a word. -/
def commandOf? : String → Option Command
  | "build" => some .build
  | "test" => some .test
  | "clean" => some .clean
  | _ => none

/-- What one word is. -/
inductive Word
  | escape
  | long (rest : List Char)
  | short (letters : List Char)
  | plain
deriving DecidableEq, Repr

/-- What a word is by its dashes. A single dash is an ordinary word. -/
def Word.of (word : String) : Word :=
  match word.toList with
  | ['-', '-'] => .escape
  | '-' :: '-' :: rest => .long rest
  | '-' :: c :: rest => .short (c :: rest)
  | _ => .plain

/-- Why a word is refused where only a command could stand. -/
def unexpected (first trailing : Bool) (word : String) : UsageFault :=
  if first then
    if trailing && ((commandOf? word).isSome || word == "help") then .unknownArgument
    else .invalidSubcommand
  else .unknownArgument

/-- The end of a level: of the words behind it only the first counts, if `--` came before. -/
def closeLevel (l : Level) : List String → Except UsageFault Flags
  | [] => return (← l.settle).flags
  | word :: _ => .error (unexpected l.first true word)

/-- What is wanted by `help` and the words behind it. -/
def helpFor : List String → UsageFault
  | [] => .helpWanted
  | word :: rest =>
    if ((commandOf? word).isSome || word == "help") && rest.isEmpty then .helpWanted
    else .invalidSubcommand

/-- Is the next word the value of an option? -/
def Level.awaits (l : Level) : Option Valued :=
  match l.pending with
  | some (v, none) => some v
  | _ => none

/-- The options of the stretch behind a command. -/
def readCommandLevel (l : Level) : List String → Except UsageFault Flags
  | [] => return (← l.settle).flags
  | word :: words =>
    match Word.of word, l.awaits with
    | .escape, _ => closeLevel l words
    | .long rest, _ => do readCommandLevel (← l.takeLong rest) words
    | .short letters, _ => do readCommandLevel (← l.takeShort letters) words
    | .plain, some v => readCommandLevel { l with pending := some (v, some word) } words
    | .plain, none => .error (unexpected l.first false word)

/-- Options given behind the command weigh more than those before it. -/
def Flags.over (inner outer : Flags) : Flags where
  file := inner.file.or outer.file
  config := inner.config.or outer.config
  tool := inner.tool.or outer.tool
  logLevel := inner.logLevel.or outer.logLevel
  dryRun := inner.dryRun || outer.dryRun

/-- Read the words of a line. -/
def readWords (l : Level) : List String → Except UsageFault CommandLine
  | [] => return { flags := (← l.settle).flags }
  | word :: words =>
    match Word.of word, l.awaits with
    | .escape, _ => return { flags := ← closeLevel l words }
    | .long rest, _ => do readWords (← l.takeLong rest) words
    | .short letters, _ => do readWords (← l.takeShort letters) words
    | .plain, some v => readWords { l with pending := some (v, some word) } words
    | .plain, none =>
      match commandOf? word with
      | some command => do
        let inner ← readCommandLevel { first := false } words
        let outer ← l.settle
        return { command := some command, flags := Flags.over inner outer.flags }
      | none =>
        if word = "help" then .error (helpFor words)
        else .error (unexpected l.first false word)

/-- Read a command line, whose first word is the name of the program. -/
def parse (argv : List String) : Except UsageFault CommandLine :=
  readWords { first := true } argv.tail

end CommandLine

end Ensemble
