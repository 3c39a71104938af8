import Ensemble.Shell.Process

/-!
# Ensemble.Shell.Redirection

**Redirections** lead descriptors to files, to texts in the script and to other descriptors. Where a
descriptor is to be led is its `Aim`. In the plain dialect all words are expanded first, in the extended
one each when its turn comes. Redirections are made from left to right. The first that fails is told, and
the command that it stands at is not run. Where a descriptor led before is `Kept`.
-/

namespace Ensemble.Shell

/-- Where a descriptor is to be led. -/
inductive Aim
  | file (kind : RedirectKind) (path : String)
  | close
  /-- To where another descriptor leads, which is told as it was written; is that one closed then? -/
  | copy (source : Nat) (label : String) (moves : Bool)
  /-- To a text of the script. -/
  | document (number : Nat)
  | content (text : String)
  /-- To a file, and complaints are led there, too. -/
  | outputs (path : String)
  /-- The shell chooses the descriptor, and gives it to a name. -/
  | chosen (name : String) (a : Aim)
  /-- It cannot be led anywhere; why? -/
  | nowhere (told : String)
deriving Repr

/-- Where a descriptor led before. -/
inductive Before
  /-- To where this one leads now. -/
  | copied (fd : Nat)
  | closed
  /-- It was closed, and is so now. -/
  | untouched
deriving DecidableEq, Repr

namespace Redirection

/-- Where descriptors led before. -/
abbrev Kept := List (Nat × Before)

/-! ### Aims -/

/-- Complain about a word that should name a descriptor. The complaint is made where the script is being
read. -/
def noDescriptor : Act α := do
  modify fun s => { s with line := s.nextLine }
  giveUp "Syntax error: Bad fd number"

/-- The aim that a word names which should name a descriptor, in the plain dialect. -/
def named (text : String) : Act Aim := do
  match text.toList with
  | ['-'] => return .close
  | [c] =>
    if c.isDigit then return .copy (c.toNat - '0'.toNat) c.toString false
    else noDescriptor
  | _ => noDescriptor

/-- The single text that a word stands for in the extended dialect, or what is wrong with it. -/
def oneText (inner : Inner) (w : Word) (go : String → Aim) : Act Aim := do
  match ← Expansion.texts (Process.scripts inner) [w] with
  | [text] => return go text
  | _ => return .nowhere (w.source ++ ": ambiguous redirect")

/-- The aim that a word names which should name a descriptor, in the extended dialect. -/
def namedText (inner : Inner) (fd : Nat) (w : Word) : Act Aim :=
  oneText inner w fun text =>
    let cs := text.toList
    let number (cs : List Char) : Option Nat :=
      if !cs.isEmpty && cs.all Char.isDigit then some (Nat.ofDigitChars 10 cs 0) else none
    if text = "-" then .close
    else
      match number cs, number cs.dropLast with
      | some n, _ => .copy n w.source false
      | none, some n =>
        if cs.getLast? == some '-' then .copy n (toString n) true
        else .nowhere (w.source ++ ": ambiguous redirect")
      | none, none =>
        if fd = 1 && text != "" then .outputs text else .nowhere (w.source ++ ": ambiguous redirect")

/-- Expand the word of a redirection. -/
def aim (inner : Inner) (r : Redirect) : Act (Nat × Aim) := do
  let isPlain := (← get).dialect = .plain
  let text (w : Word) : Act String := Expansion.text (Process.scripts inner) { home := true } w
  match r with
  | .file fd kind w =>
    if isPlain then return (fd, .file kind (← text w))
    return (fd, ← oneText inner w (.file kind))
  | .copy fd source => return (fd, .copy source (toString source) false)
  | .close fd => return (fd, .close)
  | .document fd number => return (fd, .document number)
  | .content fd w => return (fd, .content ((← text w) ++ "\n"))
  | .copyNamed fd w => return (fd, ← if isPlain then do named (← text w) else namedText inner fd w)
  | .chosen name r => do
    let (fd, a) ← aim inner r
    return (fd, .chosen name a)

/-- The ways to find the aims of redirections. -/
def aims (inner : Inner) (rs : List Redirect) : Act (List (Act (Nat × Aim))) := do
  match (← get).dialect with
  | .plain => return (← rs.mapM (aim inner)).map pure
  | .extended => return rs.map (aim inner)

/-! ### Opening -/

/-- The reason why a file cannot be opened or created. -/
def reason (creating : Bool) (e : MachineFault) : String :=
  match e with
  | .notFound | .notDirectory => if creating then "Directory nonexistent" else "No such file"
  | e => e.message

/-- Tell that a file cannot be opened or created. -/
def refuse (creating : Bool) (path : String) (e : MachineFault) : Act (Option Nat) := do
  match (← get).dialect, e with
  | .plain, e =>
    complainAt ((if creating then "cannot create " else "cannot open ") ++ path ++ ": " ++
      reason creating e)
  | .extended, .present => complainAt (path ++ ": cannot overwrite existing file")
  | .extended, e => complainAt (path ++ ": " ++ e.message)
  return none

/-- Open a file; none if that is not possible. -/
def openPath (path : String) (how : Opening) : Act (Option Nat) := do
  match ← ask (.openFile path how) with
  | .ok fd => return some fd
  | .error e => refuse how.create path e

/-- Open a file for output, but do not write over one that holds bytes. -/
def openKeeping (path : String) : Act (Option Nat) := do
  match ← ask (.status path true) with
  | .error _ => openPath path { writes := true, create := true, fresh := true }
  | .ok status =>
    if status.kind = .file then refuse true path .present
    else openPath path { writes := true }

/-- What is written to a pipe by the shell itself, up to this size. -/
def documentSize : Nat := 4096

/-- A descriptor from which a text can be read. -/
def openText (inner : Inner) (text : String) : Act Nat := do
  let (source, sink) ← ask .pipe
  if text.length ≤ documentSize then
    let _ ← writeAll sink (text.length + 1) text
  else
    let _ ← Process.start inner none false do
      Process.close source
      [1, 2, 3, 13, 20].forM Process.ignoreAlways
      let _ ← writeAll sink (text.length + 1) text
  Process.close sink
  return source

/-- A descriptor from which a text of the script can be read. -/
def openDocument (inner : Inner) (number : Nat) : Act (Option Nat) := do
  let w := ((← get).documents.lookup number).getD []
  match ← holding (Expansion.text (Process.scripts inner) { quoted := true } w) with
  | .error .failed => return none
  | .error e => throw e
  | .ok text => return some (← openText inner text)

/-- Open a file; none if that is not possible. -/
def openKind (kind : RedirectKind) (path : String) : Act (Option Nat) := do
  match kind with
  | .input => openPath path { reads := true }
  | .both => openPath path { reads := true, writes := true, create := true }
  | .append => openPath path { writes := true, create := true, append := true }
  | .overwrite => openPath path { writes := true, create := true, truncate := true }
  | .output =>
    if (← get).modes.keepFiles then openKeeping path
    else openPath path { writes := true, create := true, truncate := true }

/-- The descriptor that is opened for an aim; none if that is not possible. -/
def openAim (inner : Inner) : Aim → Act (Option Nat)
  | .document number => openDocument inner number
  | .content text => some <$> openText inner text
  | .file kind path => openKind kind path
  | .outputs path => openKind .output path
  | _ => return none

/-! ### Leading -/

/-- The lowest descriptor that the shell keeps for itself. -/
def ownDescriptors : Nat := 10

/-- Keep where a descriptor leads, and close it. -/
def setAside (fd : Nat) (closes : Bool) : Act Before := do
  match ← ask (.duplicateAbove fd ownDescriptors) with
  | .error _ => return if closes then .untouched else .closed
  | .ok copy => do
    Process.close fd
    return .copied copy

/-- Lead a descriptor to its aim, and keep where it led before if that is wanted; is it possible? -/
def redirectOne (inner : Inner) (keeps : Bool) (kept : Kept) (fd : Nat) (aim : Aim) :
    Act (Kept × Bool) := do
  let keep (kept : Kept) (fd : Nat) (closes : Bool) : Act Kept := do
    if keeps && (kept.lookup fd).isNone then return (fd, ← setAside fd closes) :: kept
    else return kept
  let copied (kept : Kept) (source : Nat) (label : String) (fd : Nat) : Act (Kept × Bool) := do
    if source = fd then return (kept, true)
    let kept ← keep kept fd false
    match ← ask (.duplicate source fd) with
    | .ok () => return (kept, true)
    | .error e => do
      complainAt (label ++ ": " ++ e.message)
      return (kept, false)
  match aim with
  | .nowhere told => do
    complainAt told
    return (kept, false)
  | .close => do
    let kept ← keep kept fd true
    Process.close fd
    return (kept, true)
  | .copy source label moves => do
    let (kept, fine) ← copied kept source label fd
    if fine && moves && source != fd then
      let kept ← keep kept source true
      Process.close source
      return (kept, true)
    return (kept, fine)
  | .chosen name a => do
    let give (fd : Nat) : Act (Kept × Bool) := do
      match ← ask (.duplicateAbove fd ownDescriptors) with
      | .ok n => do
        Extended.assignTo name none false (toString n)
        return (kept, true)
      | .error e => do
        complainAt (toString fd ++ ": " ++ e.message)
        return (kept, false)
    match a with
    | .close => do
      match ((← get).value? name).bind String.toNat? with
      | some n => do
        Process.close n
        return (kept, true)
      | none => do
        complainAt (name ++ ": ambiguous redirect")
        return (kept, false)
    | .copy source _ _ => give source
    | a => do
      match ← openAim inner a with
      | none => return (kept, false)
      | some source => do
        let done ← give source
        Process.close source
        return done
  | aim => do
    match ← openAim inner aim with
    | none => return (kept, false)
    | some source =>
      let kept ←
        if source = fd then
          pure (if keeps && (kept.lookup fd).isNone then (fd, .closed) :: kept else kept)
        else do
          let kept ← keep kept fd false
          Process.moveTo source fd
          pure kept
      match aim with
      | .outputs _ => copied kept fd (toString fd) 2
      | _ => return (kept, true)

/-- Make redirections from left to right, up to the first that fails. -/
def redirectAll (inner : Inner) (keeps : Bool) :
    Kept → List (Act (Nat × Aim)) → Act (Kept × Except Interrupt Bool)
  | kept, [] => return (kept, .ok true)
  | kept, find :: aims => do
    match ← holding find with
    | .error e => return (kept, .error e)
    | .ok (fd, aim) =>
      match ← redirectOne inner keeps kept fd aim with
      | (kept, true) => redirectAll inner keeps kept aims
      | (kept, false) => return (kept, .ok false)

/-- Lead descriptors back to where they led before; or leave them, and forget it. -/
def leadBack (forget : Bool) (kept : Kept) : Act Unit :=
  (kept.mergeSort fun a b => decide (a.1 ≤ b.1)).forM fun (fd, before) => do
    match before with
    | .untouched => pure ()
    | .closed => if !forget then Process.close fd
    | .copied copy =>
      if !forget then
        let _ ← ask (.duplicate copy fd)
      Process.close copy

/-- Do something under redirections, and lead back afterwards. If a redirection fails, `failed` is done
instead. -/
def under (inner : Inner) (forget : Bool) (aims : List (Act (Nat × Aim))) (failed : Act Unit)
    (act : Kept → Act Unit) : Act Unit := do
  if aims.isEmpty then act []
  else
    let (kept, outcome) ← redirectAll inner true [] aims
    settingRight (leadBack forget kept) do
      match outcome with
      | .ok true => act kept
      | .ok false => failed
      | .error e => throw e

/-- The status of a command whose redirections fail. -/
def failureStatus (s : Shell) : Nat :=
  match s.dialect with
  | .plain => 2
  | .extended => 1

end Redirection

end Ensemble.Shell
