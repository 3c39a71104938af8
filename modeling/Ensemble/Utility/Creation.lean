import Ensemble.Utility.Amount
import Ensemble.Utility.Dating
import Ensemble.Utility.Mode
import Ensemble.Utility.Names

/-!
# Ensemble.Utility.Creation

Utilities that **make** places in the tree, or give files a time or a size: `mkdir`, `mkfifo`, `mktemp`,
`touch` and `truncate`.
-/

namespace Ensemble.Utility

/-- The mode that an option asks for, given the one that is changed. -/
def modeOr (told : String) (isDirectory : Bool) (start : Nat) (text : String) : Tool Nat := do
  let mask ← ask (.setMask 0)
  let _ ← ask (.setMask mask)
  match ModeChange.ofString? text with
  | some changes => return ModeChange.applyAll isDirectory mask start changes
  | none => giveUp 1 told

/-- The paths that lead to a path, the shortest first, and the path itself. -/
def pathsTo (path : String) : List String :=
  let cs := path.toList
  let ends := (List.range cs.length).filter fun n =>
    cs[n]? == some '/' && n != 0 && cs[n - 1]? != some '/' && (cs.drop n).any (· != '/')
  (ends.map fun n => String.ofList (cs.take n)) ++ [path]

/-- Make a directory that is missing; the answer is whether there is one now. -/
def makeOne (path : String) (mode? : Option Nat) (isTold mayBeThere : Bool) : Tool Bool := do
  match ← ask (.makeDirectory path (mode?.getD 0o777)) with
  | .ok _ => do
    match mode? with
    | some mode =>
      let _ ← ask (.setMode path mode)
    | none => pure ()
    if isTold then sayLine ((← get).name ++ ": created directory " ++ shellQuoted path)
    return true
  | .error e => do
    let isThere ←
      if mayBeThere then
        match ← ask (.status path true) with
        | .ok s => pure (s.kind == .directory)
        | .error _ => pure false
      else pure false
    if isThere then return true
    complainOf ("cannot create directory " ++ shellQuoted path) e
    return false

/-- Make a directory with those that lead to it. -/
def makeAll (mode? : Option Nat) (isTold : Bool) : List String → Tool Bool
  | [] => return true
  | [path] => makeOne path mode? isTold true
  | path :: paths => do
    match ← ask (.status path true) with
    | .ok s =>
      if s.kind == .directory then makeAll mode? isTold paths
      else do
        complainOf ("cannot create directory " ++ shellQuoted path)
          (if paths.isEmpty then .present else .notDirectory)
        return false
    | .error _ => do
      if ← makeOne path none isTold true then makeAll mode? isTold paths else return false

def mkdir (args : List String) : Tool Nat := do
  let (chosen, operands) ← ({
    letters := "pm:vZ"
    words := [("parents", "p"), ("mode:", "m"), ("verbose", "v"), ("context::", "Z")] } :
    Choices).given args
  if operands.isEmpty then misused "missing operand"
  let mode? ←
    match chosen.value? "m" with
    | some text => do
      pure (some (← modeOr ("invalid mode " ++ quoted text) true 0o777 text))
    | none => pure none
  let isTold := chosen.has "v"
  forEach operands fun path => do
    let fine ←
      if chosen.has "p" then makeAll mode? isTold (pathsTo path)
      else makeOne path mode? isTold false
    return if fine then 0 else 1

def mkfifo (args : List String) : Tool Nat := do
  let (chosen, operands) ←
    ({ letters := "m:Z", words := [("mode:", "m"), ("context::", "Z")] } : Choices).given args
  if operands.isEmpty then misused "missing operand"
  let mode? ←
    match chosen.value? "m" with
    | some text => do pure (some (← modeOr "invalid mode" false 0o666 text))
    | none => pure none
  forEach operands fun path => do
    match ← ask (.makeQueue path (mode?.getD 0o666)) with
    | .ok _ => do
      match mode? with
      | some mode =>
        let _ ← ask (.setMode path mode)
      | none => pure ()
      return 0
    | .error e => do
      complainOf ("cannot create fifo " ++ shellQuoted path) e
      return 1

/-! ### Names that nothing has -/

/-- The letters that stand in the place of an `X`. -/
def freeLetters : List Char :=
  "abcdefghijklmnopqrstuvwxyzABCDEFGHIJKLMNOPQRSTUVWXYZ0123456789".toList

/-- So many letters that a number settles. -/
def lettersOf : Nat → Nat → List Char
  | 0, _ => []
  | count + 1, seed =>
    freeLetters.getD (seed / 65536 % 62) 'a' ::
      lettersOf count ((seed * 25214903917 + 11) % 281474976710656)

/-- Make something under a name that nothing has. -/
def makeFree (before after : String) (count : Nat) (make : String → Tool (Except MachineFault Unit)) :
    Nat → Nat → Tool (Except MachineFault String)
  | 0, _ => return .error .present
  | fuel + 1, seed => do
    let path := before ++ .ofList (lettersOf count seed) ++ after
    match ← make path with
    | .ok _ => return .ok path
    | .error .present => makeFree before after count make fuel (seed + 7919)
    | .error e => return .error e

def mktemp (args : List String) : Tool Nat := do
  let (chosen, operands) ← ({
    letters := "dp:qtuV"
    words := [("directory", "d"), ("suffix:", "S"), ("quiet", "q"), ("tmpdir::", "p"),
      ("dry-run", "u")] } : Choices).given args
  let template ←
    match operands with
    | [] => pure "tmp.XXXXXXXXXX"
    | [a] => pure a
    | _ => misused "too many templates"
  let isDefault := operands.isEmpty
  let (front, ending) ←
    match chosen.value? "S" with
    | some s =>
      if template.toList.getLast? != some 'X' then
        giveUp 1 ("with --suffix, template " ++ quoted template ++ " must end in X")
      else if s.toList.contains '/' then
        giveUp 1 ("invalid suffix " ++ quoted s ++ ", contains directory separator")
      else pure (template, s)
    | none =>
      let behind := template.toList.reverse.takeWhile (· != 'X')
      if behind.length = template.length then pure (template, "")
      else if behind.contains '/' then pure (template, "")
      else
        pure (String.ofList (template.toList.take (template.length - behind.length)),
          String.ofList behind.reverse)
  let count := (front.toList.reverse.takeWhile (· == 'X')).length
  if count < 3 then giveUp 1 ("too few X's in template " ++ quoted template)
  let temporary ← bindingOf? "TMPDIR"
  let dir ←
    if chosen.has "t" then do
      if template.toList.contains '/' then
        giveUp 1 ("invalid template, " ++ quoted template ++ ", contains directory separator")
      match temporary with
      | some d => pure (if d = "" then (chosen.value? "p").getD "/tmp" else d)
      | none => pure (((chosen.value? "p").filter (· != "")).getD "/tmp")
    else if chosen.has "p" || isDefault then do
      if template.toList.head? == some '/' then
        giveUp 1 ("invalid template, " ++ quoted template ++ "; with --tmpdir, it may not be absolute")
      match (chosen.value? "p").filter (· != "") with
      | some d => pure d
      | none => pure ((temporary.filter (· != "")).getD "/tmp")
    else pure ""
  let front := String.ofList (front.toList.take (front.length - count))
  let front := if dir = "" then front else below dir front
  let shown := if dir = "" then template else below dir template
  let isDirectory := chosen.has "d"
  let seed := (← ask .clock).toNat * 1103515245 + (← ask .self) * 12345
  let make (path : String) : Tool (Except MachineFault Unit) := do
    if chosen.has "u" then
      match ← ask (.status path false) with
      | .ok _ => return .error .present
      | .error _ => return .ok ()
    else if isDirectory then ask (.makeDirectory path 0o700)
    else
      let how : Opening :=
        { reads := true, writes := true, create := true, fresh := true, mode := 0o600 }
      match ← ask (.openFile path how) with
      | .ok fd => ask (.close fd)
      | .error e => return .error e
  match ← makeFree front ending count make 100 (seed % 281474976710656) with
  | .ok path => do
    sayLine path
    return 0
  | .error e => do
    if !chosen.has "q" then
      complainOf ("failed to create " ++ (if isDirectory then "directory" else "file") ++
        " via template " ++ quoted (shown ++ (if chosen.has "S" then ending else ""))) e
    return 1

/-! ### Times and sizes -/

def touch (args : List String) : Tool Nat := do
  let (chosen, operands) ← ({
    letters := "acd:fhmr:t:"
    words := [("time:", "T"), ("no-create", "c"), ("date:", "d"), ("reference:", "r"),
      ("no-dereference", "h")] } : Choices).given args
  let now ← ask .clock
  let changesTime := chosen.has "m" || !chosen.has "a"
  if chosen.has "t" && (chosen.has "d" || chosen.has "r") then
    misused "cannot specify times from more than one source"
  let base ←
    match chosen.value? "r" with
    | some path => do
      match ← timeOf path with
      | .ok t => pure (some t)
      | .error e => giveUp 1 ("failed to get attributes of " ++ shellQuoted path ++ ": " ++ e.message)
    | none => pure none
  let time? ←
    match chosen.value? "d", chosen.value? "t" with
    | some text, _ =>
      match Dating.time? (base.getD now) text with
      | some t => pure (some t)
      | none => giveUp 1 ("invalid date format " ++ quoted text)
    | none, some text =>
      match Dating.ofDigits? now false text with
      | some t => pure (some t)
      | none => giveUp 1 ("invalid date format " ++ quoted text)
    | none, none => pure base
  if operands.isEmpty then misused "missing file operand"
  let follow := !chosen.has "h"
  forEach operands fun path => do
    if path = "-" then return 0
    let isThere := (← ask (.status path follow)).toOption.isSome
    let made : Except MachineFault Unit ←
      if isThere || chosen.has "c" || chosen.has "h" then pure (.ok ())
      else
        match ← ask (.openFile path { writes := true, create := true }) with
        | .ok fd => ask (.close fd)
        | .error .isDirectory => pure (.ok ())
        | .error e => pure (.error e)
    match made with
    | .error e => do
      complainOf ("cannot touch " ++ shellQuoted path) e
      return 1
    | .ok _ =>
      if !changesTime then return 0
      let time := time?.getD (now / 4000 * 4000)
      match ← ask (.setTime path time follow) with
      | .ok _ => return 0
      | .error .notFound =>
        if chosen.has "c" then return 0
        complainOf ("setting times of " ++ shellQuoted path) .notFound
        return 1
      | .error e => do
        complainOf ("setting times of " ++ shellQuoted path) e
        return 1

/-- The new size of a file, given the old one. -/
inductive Sizing
  | exactly (n : Nat)
  | larger (n : Nat)
  | smaller (n : Nat)
  | atMost (n : Nat)
  | atLeast (n : Nat)
  | downTo (n : Nat)
  | upTo (n : Nat)

namespace Sizing

/-- The sizing that a text asks for. -/
def ofString? (s : String) : Option Sizing :=
  let amount (cs : List Char) : Option Nat :=
    match Amount.ofString (.ofList cs) with
    | .given n => some n
    | _ => none
  match s.toList.dropWhile Shell.Numeral.isSpace with
  | '+' :: cs => (amount cs).map larger
  | '-' :: cs => (amount cs).map smaller
  | '<' :: cs => (amount cs).map atMost
  | '>' :: cs => (amount cs).map atLeast
  | '/' :: cs => ((amount cs).filter (· != 0)).map downTo
  | '%' :: cs => ((amount cs).filter (· != 0)).map upTo
  | cs => (amount cs).map exactly

def size (old : Nat) : Sizing → Nat
  | exactly n => n
  | larger n => old + n
  | smaller n => old - n
  | atMost n => min old n
  | atLeast n => max old n
  | downTo n => old / n * n
  | upTo n => (old + n - 1) / n * n

end Sizing

def truncate (args : List String) : Tool Nat := do
  let (chosen, operands) ← ({
    letters := "cor:s:"
    words := [("no-create", "c"), ("io-blocks", "o"), ("reference:", "r"), ("size:", "s")] } :
    Choices).given args
  let sizing ←
    match chosen.value? "s" with
    | some text =>
      match Sizing.ofString? text with
      | some s => pure (some s)
      | none => giveUp 1 ("Invalid number: " ++ quoted text)
    | none => pure none
  if !chosen.has "s" && !chosen.has "r" then
    misused "you must specify either '--size' or '--reference'"
  if operands.isEmpty then misused "missing file operand"
  let base ←
    match chosen.value? "r" with
    | some path => do
      match ← ask (.status path true) with
      | .ok s => pure (some s.size)
      | .error e => giveUp 1 ("cannot stat " ++ shellQuoted path ++ ": " ++ e.message)
    | none => pure none
  forEach operands fun path => do
    match ← ask (.openFile path { writes := true, create := !chosen.has "c" }) with
    | .error .notFound =>
      if chosen.has "c" then return 0
      complainOf ("cannot open " ++ shellQuoted path ++ " for writing") .notFound
      return 1
    | .error e => do
      complainOf ("cannot open " ++ shellQuoted path ++ " for writing") e
      return 1
    | .ok fd => do
      let old := match ← ask (.descriptorStatus fd) with | .ok s => s.size | .error _ => 0
      let size := (sizing.getD (.larger 0)).size (base.getD old)
      let result ← ask (.setSize fd size)
      let _ ← ask (.close fd)
      match result with
      | .ok _ => return 0
      | .error e => do
        complainOf ("failed to truncate " ++ shellQuoted path ++ " at " ++ toString size ++ " bytes") e
        return 1

end Ensemble.Utility
