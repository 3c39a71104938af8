/-!
# Ensemble.Shell.Modes

The **switches** of a shell. Each has a name, and most have a letter; they are turned on behind a `-`
and off behind a `+` (`Switches.take`). Where the words go wrong, what was turned before stays so.
-/

namespace Ensemble.Shell

/-- The switches of a shell. -/
structure Modes where
  /-- End at the first command that fails. -/
  stopOnFailure : Bool := false
  /-- Do not complete patterns to paths. -/
  literalPaths : Bool := false
  ignoreEnd : Bool := false
  interactive : Bool := false
  monitor : Bool := false
  /-- Read commands and do not run them. -/
  onlyRead : Bool := false
  /-- Read commands from standard input. -/
  fromInput : Bool := false
  /-- Tell each command before it is run. -/
  traceCommands : Bool := false
  /-- Tell each line that is read. -/
  echoInput : Bool := false
  editAsVi : Bool := false
  editAsEmacs : Bool := false
  /-- Do not write over files by plain redirection. -/
  keepFiles : Bool := false
  /-- Export every variable that is assigned. -/
  exportAll : Bool := false
  notifyAtOnce : Bool := false
  /-- Refuse parameters that are not set. -/
  strictParameters : Bool := false
  privileged : Bool := false
  unlogged : Bool := false
  debugged : Bool := false
  /-- A pipeline fails if any of its commands does. -/
  pipelineFails : Bool := false
  /-- Words in braces stand for several. -/
  braces : Bool := true
  /-- What is done on failures and before commands is done in functions, too. -/
  failureTraps : Bool := false
  commandTraps : Bool := false
  /-- Directories are told by their places in the tree. -/
  byPlace : Bool := false
  /-- Where commands have been found is kept in mind. -/
  remembers : Bool := true
  plainRules : Bool := false
  comments : Bool := true
  history : Bool := false
  historyMarks : Bool := false
  bindingsAnywhere : Bool := false
  oneCommand : Bool := false
deriving DecidableEq, Repr

/-- A switch, with its name and letter. -/
structure Mode where
  name : String
  letter : Option Char
  get : Modes → Bool
  put : Bool → Modes → Modes

namespace Mode

/-- All switches, in the order in which they are listed. -/
def all : List Mode :=
  [⟨"errexit", some 'e', (·.stopOnFailure), fun b m => { m with stopOnFailure := b }⟩,
    ⟨"noglob", some 'f', (·.literalPaths), fun b m => { m with literalPaths := b }⟩,
    ⟨"ignoreeof", some 'I', (·.ignoreEnd), fun b m => { m with ignoreEnd := b }⟩,
    ⟨"interactive", some 'i', (·.interactive), fun b m => { m with interactive := b }⟩,
    ⟨"monitor", some 'm', (·.monitor), fun b m => { m with monitor := b }⟩,
    ⟨"noexec", some 'n', (·.onlyRead), fun b m => { m with onlyRead := b }⟩,
    ⟨"stdin", some 's', (·.fromInput), fun b m => { m with fromInput := b }⟩,
    ⟨"xtrace", some 'x', (·.traceCommands), fun b m => { m with traceCommands := b }⟩,
    ⟨"verbose", some 'v', (·.echoInput), fun b m => { m with echoInput := b }⟩,
    ⟨"vi", some 'V', (·.editAsVi), fun b m =>
      { m with editAsVi := b, editAsEmacs := m.editAsEmacs && !b }⟩,
    ⟨"emacs", some 'E', (·.editAsEmacs), fun b m =>
      { m with editAsEmacs := b, editAsVi := m.editAsVi && !b }⟩,
    ⟨"noclobber", some 'C', (·.keepFiles), fun b m => { m with keepFiles := b }⟩,
    ⟨"allexport", some 'a', (·.exportAll), fun b m => { m with exportAll := b }⟩,
    ⟨"notify", some 'b', (·.notifyAtOnce), fun b m => { m with notifyAtOnce := b }⟩,
    ⟨"nounset", some 'u', (·.strictParameters), fun b m => { m with strictParameters := b }⟩,
    ⟨"privileged", some 'p', (·.privileged), fun b m => { m with privileged := b }⟩,
    ⟨"nolog", none, (·.unlogged), fun b m => { m with unlogged := b }⟩,
    ⟨"debug", none, (·.debugged), fun b m => { m with debugged := b }⟩]

/-- All switches of the extended dialect, in the order in which they are listed. -/
def extended : List Mode :=
  let common (name : String) (letter : Option Char) : List Mode :=
    ((all.find? (·.name == name)).map fun m => { m with letter }).toList
  common "allexport" (some 'a') ++
    [⟨"braceexpand", some 'B', (·.braces), fun b m => { m with braces := b }⟩] ++
    common "emacs" none ++ common "errexit" (some 'e') ++
    [⟨"errtrace", some 'E', (·.failureTraps), fun b m => { m with failureTraps := b }⟩,
      ⟨"functrace", some 'T', (·.commandTraps), fun b m => { m with commandTraps := b }⟩,
      ⟨"hashall", some 'h', (·.remembers), fun b m => { m with remembers := b }⟩,
      ⟨"histexpand", some 'H', (·.historyMarks), fun b m => { m with historyMarks := b }⟩,
      ⟨"history", none, (·.history), fun b m => { m with history := b }⟩] ++
    common "ignoreeof" none ++
    [⟨"interactive-comments", none, (·.comments), fun b m => { m with comments := b }⟩,
      ⟨"keyword", some 'k', (·.bindingsAnywhere), fun b m => { m with bindingsAnywhere := b }⟩] ++
    common "monitor" (some 'm') ++ common "noclobber" (some 'C') ++ common "noexec" (some 'n') ++
    common "noglob" (some 'f') ++ common "nolog" none ++ common "notify" (some 'b') ++
    common "nounset" (some 'u') ++
    [⟨"onecmd", some 't', (·.oneCommand), fun b m => { m with oneCommand := b }⟩,
      ⟨"physical", some 'P', (·.byPlace), fun b m => { m with byPlace := b }⟩,
      ⟨"pipefail", none, (·.pipelineFails), fun b m => { m with pipelineFails := b }⟩,
      ⟨"posix", none, (·.plainRules), fun b m => { m with plainRules := b }⟩] ++
    common "privileged" (some 'p') ++ common "verbose" (some 'v') ++ common "vi" none ++
    common "xtrace" (some 'x')

/-- The switches of the extended dialect by their letters, in the order in which these are listed. -/
def letterOrder : List Char :=
  ['a', 'b', 'e', 'f', 'h', 'k', 'm', 'n', 'p', 't', 'u', 'v', 'x', 'B', 'C', 'E', 'H', 'P', 'T']

end Mode

namespace Modes

/-- The letters of the switches that are on. -/
def letters (m : Modes) : String :=
  .ofList (Mode.all.reverse.filterMap fun mode => if mode.get m then mode.letter else none)

/-- The letters of the switches of the extended dialect that are on. -/
def extendedLetters (m : Modes) : String :=
  .ofList (Mode.letterOrder.filter fun c =>
    (Mode.extended.find? (·.letter == some c)).any fun mode => mode.get m)

end Modes

/-- What is no switch. -/
inductive SwitchFault
  | name (s : String)
  | letter (on : Bool) (c : Char)
deriving DecidableEq, Repr

/-- The words for it in the plain dialect. -/
def SwitchFault.message : SwitchFault → String
  | .name s => "Illegal option -o " ++ s
  | .letter _ c => "Illegal option -" ++ c.toString

/-- Switches, taken off words. -/
structure Switches where
  modes : Modes
  rest : List String
  /-- Letters that are no switches. -/
  others : List Char := []
  /-- Did `--` end the switches? -/
  ended : Bool := false
  /-- Are all switches to be listed, and as commands? -/
  listing : Option Bool := none
  /-- What is wrong. -/
  fault : Option SwitchFault := none

namespace Switches

/-- Turn the switches of one word on or off, of those that there are; the letter `o` takes the name of a
switch from the words behind. -/
def letters (known : List Mode) (others : List Char) (on : Bool) : List Char → Switches → Switches
  | [], s => s
  | c :: cs, s =>
    if s.fault.isSome then s
    else if c = 'o' then
      match s.rest with
      | [] => letters known others on cs { s with listing := some !on }
      | name :: rest =>
        match known.find? (·.name == name) with
        | some mode => letters known others on cs { s with modes := mode.put on s.modes, rest }
        | none => { s with fault := some (.name name) }
    else if others.contains c then letters known others on cs { s with others := c :: s.others }
    else
      match known.find? (·.letter == some c) with
      | some mode => letters known others on cs { s with modes := mode.put on s.modes }
      | none => { s with fault := some (.letter on c) }

/-- Take switches off words; `others` are letters that mean something else. -/
def take (known : List Mode) (others : List Char) : Nat → Switches → Switches
  | 0, s => s
  | fuel + 1, s =>
    match s.rest with
    | [] => s
    | a :: rest =>
      let turn (on : Bool) (cs : List Char) : Switches :=
        let s := letters known others on cs { s with rest }
        if s.fault.isSome then s else take known others fuel s
      match a.toList with
      | ['-'] =>
        { s with rest, modes := { s.modes with traceCommands := false, echoInput := false } }
      | ['-', '-'] => { s with rest, ended := true }
      | '-' :: cs => turn true cs
      | '+' :: cs => turn false cs
      | _ => s

/-- The switches at the beginning of words. -/
def ofWords (known : List Mode) (others : List Char) (modes : Modes) (words : List String) : Switches :=
  take known others (words.length + 1) { modes, rest := words }

end Switches

end Ensemble.Shell
