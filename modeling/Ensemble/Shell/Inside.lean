import Ensemble.Machine.Program
import Ensemble.Shell.Expansion
import Ensemble.Shell.Extended.Reader
import Ensemble.Shell.Reader

/-!
# Ensemble.Shell.Inside

**Commands inside commands.** What the shell does is written against a way to run the commands inside
of what is being run (`Inner`). Here are the things that run more than one of them: the text of a
script, what is done on signals, and a process from its beginning to its very end.
-/

namespace Ensemble.Shell

/-- Is the process of a shell replaced by a program that ends it, in the extended dialect? -/
inductive Replacing
  | never
  /-- By a command of a pipeline. -/
  | piped
  /-- The shell is counted out then. -/
  | counted
deriving DecidableEq, Repr

/-- How a command is run. -/
structure Manner where
  /-- Is its status asked for, so that the shell goes on even if it fails? -/
  tested : Bool := false
  /-- Does the process end with it? -/
  last : Bool := false
  replacing : Replacing := .never

/-- The ways on from a command: to run one inside of it, and to go on as another program. -/
structure Inner where
  run : Manner → Command → Act Unit
  launch : Launch

/-- Do something, and hold what breaks it off. -/
def holding (act : Act α) : Act (Except Interrupt α) :=
  ExceptT.lift (m := StateT Shell Doing) act.run

/-- Tell the lines of a script that have been read, if that is wanted. -/
def echoLines (before after : Cursor) : Act Unit := do
  if (← get).modes.echoInput then
    sayError (.ofList (before.left.take (before.left.length - after.left.length)))

/-- The lines of a script up to one with a fault. -/
def linesThrough (c : Cursor) (line : Nat) : List Char :=
  ((Text.cutAfter '\n' c.left).take (line + 1 - c.line)).flatten

/-- Tell why a script cannot be read, and what is told of it although it can. -/
def tellFault (s : Shell) (text : String) (start : Nat) (fault : ReadFault) : Act Unit := do
  let lead :=
    match s.textLabel with
    | some label => s.complainer ++ ": " ++ label ++ ": line " ++ toString fault.line ++ ": "
    | none => s.complainer ++ ": line " ++ toString fault.line ++ ": "
  let line := ((Text.cutBetween '\n' text.toList).1 :: (Text.cutBetween '\n' text.toList).2).getD
    (fault.line - start) []
  complain (lead ++ fault.message)
  fault.more.forM fun told => complain (lead ++ told)
  if fault.showsLine then complain (lead ++ "\x60" ++ .ofList line ++ "'")

def tellWarnings (c : Cursor) : Act Unit := do
  let s ← get
  c.warnings.forM fun (line, told) => complain (s.complaintLead line ++ "warning: " ++ told)

/-- Run a command of a script; if its line is dropped, the script goes on. -/
def runLine (inner : Inner) (manner : Manner) (command : Command) : Act Unit := do
  let before := (← get).loops
  match ← holding (inner.run manner command) with
  | .ok () => pure ()
  | .error .dropped => do
    if (← get).subshells != 0 || manner.last then throw .exit
    modify ({ · with loops := before })
  | .error e => throw e

/-- Run the commands of a text, one after the other: a command is read when those before it have been
run. Has there been one? -/
def runCommands (inner : Inner) (manner : Manner) (isFile : Bool) (text : String) (start : Nat := 1) :
    Act Bool := do
  let s ← get
  let before := s.nextLine
  let text :=
    if s.dialect = .extended && text.toList.getLast? != some '\n' then text ++ "\n" else text
  settingRight (modify ({ · with nextLine := before }))
    (go text start (text.length + 2) false (Cursor.ofText text.toList start))
where
  go (text : String) (start : Nat) : Nat → Bool → Cursor → Act Bool
    | 0, ran, _ => return ran
    | fuel + 1, ran, cursor => do
      let s ← get
      let cursor :=
        { cursor with
          aliases := if s.dialect = .plain || s.toggles.contains "expand_aliases" then s.aliases else []
          documents := s.documents, nextDocument := s.nextDocument
          groups := s.toggles.contains "extglob", warnings := [] }
      let echoes := isFile || s.dialect = .extended
      let next :=
        match s.dialect with
        | .plain => Reader.nextCommand.run cursor
        | .extended => Extended.Reader.nextCommand.run cursor
      match next with
      | .error fault => do
        if echoes && s.modes.echoInput then sayError (.ofList (linesThrough cursor fault.line))
        if s.dialect = .extended then
          tellFault s text start fault
          fail 2
        modify fun s => { s with line := fault.line }
        giveUp fault.message
      | .ok (next, after) => do
        if echoes then echoLines cursor after
        tellWarnings after
        modify fun s =>
          { s with
            documents := after.documents, nextDocument := after.nextDocument, nextLine := after.line }
        match next with
        | none => return ran
        | some (command, atEnd) => do
          ask .tick
          runLine inner { manner with last := manner.last && atEnd } command
          let ran := ran || (match command with | .nothing => false | _ => true)
          if (← get).skip.isSome then return ran
          go text start fuel ran after

/-- Run the commands of a text. In the extended dialect a text that cannot be read ends nothing else. -/
def runText (inner : Inner) (manner : Manner) (text : String) (start : Nat := 1) : Act Bool := do
  match ← holding (runCommands inner manner false text start) with
  | .ok ran => return ran
  | .error .failed => do
    if (← get).dialect = .plain then throw .failed
    return true
  | .error e => throw e

/-- Carry out what is to be done on the signals that have come, the lowest first. While something is
passed over, that has to wait. -/
def serve (inner : Inner) (status : Nat) : Nat → Act Unit
  | 0 => return ()
  | fuel + 1 => do
    let s ← get
    match s.pending with
    | [] => return ()
    | signal :: pending =>
      if s.skip.isSome then return ()
      set { s with pending }
      match s.traps.lookup signal with
      | some action =>
        let _ ← runText inner {} action
        match (← get).skip with
        | some (.function true) => pure ()
        | _ => setStatus status
      | none => pure ()
      serve inner status fuel

/-- Do what is to be done on signals that have come. -/
def serveTraps (inner : Inner) : Act Unit := do
  let s ← get
  if s.traps.any fun (n, action) => n != 0 && action != "" then
    let came ← ask .noted
    if came.isEmpty && s.pending.isEmpty then return ()
    let signals := (List.range (lastSignal + 1)).filter fun n =>
      s.pending.contains n || came.contains n
    let status := s.statusBefore.getD s.status
    set { s with pending := signals, statusBefore := some status }
    serve inner status (signals.length + 1)
    modify fun after => { after with statusBefore := s.statusBefore }

/-- Do something that is all a process does, and then what is to be done at its end: the answer is the
status of the process. -/
def toStatus (inner : Inner) (act : Act Unit) : Act Nat := do
  match ← holding act with
  | .error .exhausted => dieOf 11
  | _ => pure ()
  flush
  let s ← get
  match s.traps.lookup 0 with
  | none => return s.status
  | some action =>
    set { s with
      traps := s.traps.filter (·.1 != 0), statusBefore := some s.status, skip := none }
    match ← holding (runText inner {} action) with
    | .ok _ => return s.status
    | .error .exhausted => dieOf 11
    | .error _ => do
      flush
      return (← get).status

/-- A shell process that does something and ends. -/
def processOf (inner : Inner) (s : Shell) (act : Act Unit) : Process :=
  Doing.toProcess do
    match ← (toStatus inner act).run.run s with
    | (.ok status, _) => return status % 256
    | (.error _, s) => return s.status % 256

end Ensemble.Shell
