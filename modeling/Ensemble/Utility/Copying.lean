import Ensemble.Utility.Creation
import Ensemble.Utility.Destination

/-!
# Ensemble.Utility.Copying

**Copying** files, and directories with all below them: `cp`.
-/

/-! ### Copying -/

namespace Ensemble.Utility

/-- What a copy is. -/
inductive CopyForm
  | content
  | hardLink
  | link
deriving DecidableEq, Repr

/-- How things are copied. -/
structure Copying extends Bringing where
  form : CopyForm := .content
  whole : Bool := false
  /-- Are links followed: all, those among the operands, or none? -/
  follow : Bool := true
  followOperands : Bool := true
  keepsMode : Bool := false
  keepsTime : Bool := false
  /-- Is what is there removed first? -/
  clears : Bool := false
  /-- Does a copy get the whole path of its source? -/
  withPath : Bool := false
  mask : Nat := 0

namespace Copying

/-- Tell what is copied where. -/
def tell (c : Copying) (source target aside : String) : Tool Unit := do
  if c.told then sayLine (shellQuoted source ++ " -> " ++ shellQuoted target ++ aside)

/-- Give a copy the mode and the time of its source. -/
def settle (c : Copying) (target : String) (s : Status) : Tool Unit := do
  if c.keepsMode then
    let _ ← ask (.setMode target (s.mode % 4096))
  if c.keepsTime then
    let _ ← ask (.setTime target s.time (s.kind != .link))

/-- Pass content on from one descriptor to another. -/
def pass (source target : Nat) : Nat → Tool (Option MachineFault)
  | 0 => return none
  | fuel + 1 => do
    match ← ask (.read source inputBlock) with
    | .error e => return some e
    | .ok "" => return none
    | .ok text => do
      match ← writeTo target (text.length + 1) text with
      | some e => return some e
      | none => pass source target fuel

/-- Copy the content of a file. -/
def file (c : Copying) (source target : String) (s : Status) (isThere : Bool) : Tool Nat := do
  match ← ask (.openFile source { reads := true }) with
  | .error e => do
    complainOf ("cannot open " ++ shellQuoted source ++ " for reading") e
    return 1
  | .ok fd => do
    let dangling ←
      if isThere then pure false
      else pure (← ask (.status target false)).toOption.isSome
    if dangling && !c.forced then
      complain ("not writing through dangling symlink " ++ shellQuoted target)
      closeInput fd
      return 1
    if dangling then
      let _ ← ask (.unlink target)
    let mode := s.mode % 512
    match ← ask (.openFile target { writes := true, create := !isThere, truncate := true, mode }) with
    | .error e => do
      let slashed := target.toList.getLast? == some '/' && e == .isDirectory
      complainOf ("cannot create regular file " ++ shellQuoted target)
        (if slashed then .notDirectory else e)
      closeInput fd
      return 1
    | .ok out => do
      let failure ← pass fd out readLimit
      let _ ← ask (.close fd)
      let _ ← ask (.close out)
      match failure with
      | some e => do
        complainOf ("error copying " ++ shellQuoted source ++ " to " ++ shellQuoted target) e
        return 1
      | none => do
        c.settle target s
        return 0

/-- Tell why something could not be made. -/
def refused (told : String) (r : Except MachineFault Unit) : Tool Nat := do
  match r with
  | .ok _ => return 0
  | .error e => do
    complainOf told e
    return 1

/-- Are two paths names of one file? -/
def isSame (c : Copying) (source target : String) (isOperand : Bool) : Tool Bool := do
  let follow := c.follow || (isOperand && c.followOperands)
  match ← ask (.status source follow), ← ask (.status target follow) with
  | .ok a, .ok b => return a.number == b.number
  | _, _ => return false

/-- Copy a place, given what is at the target and how a place inside of it is copied. -/
def onto (c : Copying) (inside : Nat → String → String → Tool Nat) (s : Status)
    (source target : String) (there : Option Status) : Tool Nat := do
  if s.kind == .directory then
    let mode := s.mode % 4096
    if there.isNone then
      let result ← ask (.makeDirectory target ((mode % 512) ||| 0o700))
      match result with
      | .error e => do
        complainOf ("cannot create directory " ++ shellQuoted target) e
        return 1
      | .ok _ => c.tell source target ""
    let names := match ← ask (.list source) with | .ok names => names | .error _ => []
    let number := match ← ask (.status target true) with | .ok t => t.number | .error _ => 0
    let status ← forEach names fun name =>
      inside number (below source name) (below target name)
    if there.isNone then
      let _ ← ask (.setMode target (if c.keepsMode then mode else bitsWithout (mode % 512) c.mask))
    c.settle target s
    return status
  else
    let aside ← if there.isSome then putAside c.toBringing target else pure ""
    let cleared :=
      there.isSome && aside = "" &&
        (c.clears || (c.forced && c.form != .content) || (!c.follow && s.kind != .file))
    if cleared then
      let _ ← ask (.unlink target)
    let isThere := there.isSome && aside = "" && !cleared
    match c.form with
    | .hardLink => do
      c.tell source target aside
      refused ("cannot create hard link " ++ shellQuoted target ++ " to " ++ shellQuoted source)
        (← ask (.link source target c.follow))
    | .link => do
      if source.toList.head? != some '/' && directoryName target != "." then
        complain (nameOf target ++ ": can make relative symbolic links only in current directory")
        return 1
      c.tell source target aside
      refused ("cannot create symbolic link " ++ shellQuoted target ++ " to " ++ shellQuoted source)
        (← ask (.makeLink source target))
    | .content =>
      c.tell source target aside
      match s.kind, c.whole with
      | .link, _ => do
        match ← ask (.readLink source) with
        | .error e => do
          complainOf ("cannot read symbolic link " ++ shellQuoted source) e
          return 1
        | .ok content => do
          let status ← refused ("cannot create symbolic link " ++ shellQuoted target)
            (← ask (.makeLink content target))
          if c.keepsTime then
            let _ ← ask (.setTime target s.time false)
          return status
      | .queue, true => do
        let status ← refused ("cannot create fifo " ++ shellQuoted target)
          (← ask (.makeQueue target (s.mode % 512)))
        c.settle target s
        return status
      | _, _ => c.file source target s isThere

/-- Copy a place. `made` holds the numbers of the directories that have been made. -/
def place (c : Copying) (top : String × String) :
    Nat → Bool → List Nat → String → String → Tool Nat
  | 0, _, _, _, _ => return 1
  | fuel + 1, isOperand, made, source, target => do
    ask .tick
    let inside (number : Nat) := place c top fuel false (number :: made)
    match ← ask (.status source (c.follow || (isOperand && c.followOperands))) with
    | .error e => do
      complainOf ("cannot stat " ++ shellQuoted source) e
      return 1
    | .ok s =>
      let isDirectory := s.kind == .directory
      if isDirectory && !c.whole then
        complain ("-r not specified; omitting directory " ++ shellQuoted source)
        return 1
      if isDirectory && made.contains s.number then
        complain ("cannot copy a directory, " ++ shellQuoted top.1 ++ ", into itself, " ++
          shellQuoted top.2)
        return 1
      let seesLink := !c.follow && !isDirectory && s.kind == .link
      match ← ask (.status target (!seesLink)) with
      | .error .notFound => c.onto inside s source target none
      | .error e => do
        complainOf ("cannot stat " ++ shellQuoted target) e
        return 1
      | .ok t =>
        if (← c.isSame source target isOperand) && !c.aside.isSome then
          if c.form == .hardLink then return 0
          if !isDirectory then
            complain (shellQuoted source ++ " and " ++ shellQuoted target ++ " are the same file")
            return 1
        if !isDirectory && c.onlyOlder && s.time ≤ t.time then return 0
        if !isDirectory && c.replacing == .never then return 0
        if !isDirectory && t.kind == .directory then
          complain ("cannot overwrite directory " ++ shellQuoted target ++ " with non-directory")
          return 1
        if !isDirectory && c.replacing == .asked then
          if !(← isAgreed ("overwrite " ++ shellQuoted target)) then return 1
        if isDirectory && t.kind != .directory then
          complain ("cannot overwrite non-directory " ++ shellQuoted target ++ " with directory " ++
            shellQuoted source)
          return 1
        c.onto inside s source target (some t)

/-- Make the directories that lead to a copy that gets the whole path of its source. -/
def makeWay (c : Copying) (dir : String) : List String → Tool Bool
  | [] => return true
  | path :: paths => do
    let target := below dir path
    match ← ask (.status target true) with
    | .ok s =>
      if s.kind == .directory then makeWay c dir paths
      else do
        complain (shellQuoted target ++ " exists but is not a directory")
        return false
    | .error _ => do
      match ← ask (.makeDirectory target 0o777) with
      | .ok _ => do
        if c.told then sayLine (path ++ " -> " ++ target)
        makeWay c dir paths
      | .error e => do
        complainOf ("cannot make directory " ++ shellQuoted target) e
        return false

/-- Copy an operand. -/
def operand (c : Copying) (goal : Goal) (source : String) : Tool Nat := do
  match goal, c.withPath with
  | .directory dir, true => do
    let bare := withoutSlashes source
    let bare := String.ofList (bare.toList.dropWhile (· == '/'))
    if ← c.makeWay dir (pathsTo bare).dropLast then
      let target := below dir bare
      c.place (source, target) depthLimit true [] source target
    else return 1
  | .directory dir, false =>
    let name := baseName source
    let target := (Goal.directory dir).pathFor source
    let target := if name = "." then below dir "." else target
    c.place (source, target) depthLimit true [] source target
  | .path target, _ => c.place (source, target) depthLimit true [] source target

/-- Copy operands. None is copied twice, and none over the copy of another. -/
def operands (c : Copying) (goal : Goal) :
    List (Nat × String) → List String → List String → Tool Nat
  | _, _, [] => return 0
  | seen, made, source :: sources => do
    let source := if c.stripped then withoutSlashes source else source
    let target := goal.pathFor source
    match ← ask (.status source (c.follow || c.followOperands)) with
    | .error _ => do
      let status ← c.operand goal source
      return max status (← operands c goal seen made sources)
    | .ok s => do
      let key := (s.number, baseName source)
      let isDirectory := s.kind == .directory
      let status ←
        if seen.contains key && c.aside.isNone && (!isDirectory || c.whole) then do
          complain ("warning: source " ++ (if isDirectory then "directory " else "file ") ++
            shellQuoted source ++ " specified more than once")
          pure 0
        else if !isDirectory && made.contains target && !c.withPath && c.aside.isNone then do
          complain ("will not overwrite just-created " ++ shellQuoted target ++ " with " ++
            shellQuoted source)
          pure 1
        else c.operand goal source
      return max status (← operands c goal (key :: seen) (target :: made) sources)

/-- How things are copied, by the options. -/
def ofChosen (chosen : Chosen) (mask : Nat) : Copying :=
  let archive := chosen.has "a"
  let whole := chosen.has "r" || chosen.has "R" || archive
  let form : CopyForm :=
    match chosen.last? ["l", "s"] with
    | some "l" => .hardLink
    | some _ => .link
    | none => .content
  let (follow, followOperands) : Bool × Bool :=
    match chosen.last? ["L", "P", "H", "d", "a"] with
    | some "L" => (true, true)
    | some "H" => (false, true)
    | some _ => (false, false)
    | none => if whole || form == CopyForm.hardLink then (false, false) else (true, true)
  let kept := ((chosen.filter (·.1 == "preserve")).map (·.2))
  let keeps (what : String) : Bool :=
    chosen.has "p" || archive || kept.any fun list : String =>
      list = "" || ((Dating.cut ',' list.toList).map String.ofList).any fun w => w = what || w = "all"
  { bringingOf chosen with
    form, whole, follow, followOperands, mask
    keepsMode := keeps "mode", keepsTime := keeps "timestamps"
    clears := chosen.has "remove-destination", withPath := chosen.has "parents" }

end Copying

def cp (args : List String) : Tool Nat := do
  let (chosen, operands) ← ({
    letters := "abdfHilLnprst:uvxPRS:TZ"
    words := [("archive", "a"), ("attributes-only", "attributes-only"), ("copy-contents", "copies"),
      ("dereference", "L"), ("link", "l"), ("no-clobber", "n"), ("no-dereference", "P"),
      ("no-preserve:", "no-preserve"), ("one-file-system", "x"), ("parents", "parents"),
      ("preserve::", "preserve"), ("recursive", "r"), ("remove-destination", "remove-destination"),
      ("reflink::", "reflink"), ("sparse:", "sparse"), ("debug", "v"),
      ("strip-trailing-slashes", "strip-trailing-slashes"), ("symbolic-link", "s"),
      ("update::", "update")] ++ bringingWords } : Choices).given args
  if chosen.has "n" then
    complain ("warning: behavior of -n is non-portable and may change in future; " ++
      "use --update=none instead")
  let mask ← ask (.setMask 0)
  let _ ← ask (.setMask mask)
  let c := Copying.ofChosen chosen mask
  let (sources, goal) ← goalOf chosen operands
  match goal, c.withPath with
  | .path _, true => misused "with --parents, the destination must be a directory"
  | _, _ => pure ()
  c.operands goal [] [] sources

end Ensemble.Utility

/-! ### Installing

**Installing**: `install` copies files to where they are used, with modes of their own, and makes
directories. What is there already is removed first.
-/

namespace Ensemble.Utility

/-- How files are installed. -/
structure Installing extends Bringing where
  mode : Nat := 0o755
  /-- Are the directories made that lead to a target? -/
  withWay : Bool := false
  keepsTime : Bool := false
  /-- Does what is the same already stay? -/
  compares : Bool := false

namespace Installing

/-- Make directories with those that lead to them; only the last of them has a mode of its own. -/
def makeWay (mode? : Option Nat) (isTold : Bool) : List String → Tool Bool
  | [] => return true
  | path :: paths => do
    match ← ask (.status path true) with
    | .ok s =>
      if s.kind == .directory then do
        match paths, mode? with
        | [], some mode =>
          let _ ← ask (.setMode path mode)
        | _, _ => pure ()
        makeWay mode? isTold paths
      else do
        complainOf ("cannot create directory " ++ shellQuoted path)
          (if paths.isEmpty then .present else .notDirectory)
        return false
    | .error _ => do
      match ← ask (.makeDirectory path 0o755) with
      | .error e => do
        complainOf ("cannot create directory " ++ shellQuoted path) e
        return false
      | .ok _ => do
        if isTold then sayLine ((← get).name ++ ": creating directory " ++ shellQuoted path)
        match paths, mode? with
        | [], some mode =>
          let _ ← ask (.setMode path mode)
        | _, _ => pure ()
        makeWay mode? isTold paths

/-- Is a target the same as what it would be made? -/
def isSettled (i : Installing) (source target : String) : Tool Bool := do
  match ← ask (.status target false) with
  | .ok t =>
    if t.kind != .file || t.mode % 4096 != i.mode then return false
    match ← contentOf source, ← contentOf target with
    | .text a, .text b => return a == b
    | _, _ => return false
  | .error _ => return false

/-- Install one file. -/
def file (i : Installing) (source target : String) : Tool Nat := do
  match ← ask (.status source true) with
  | .error e => do
    complainOf ("cannot stat " ++ shellQuoted source) e
    return 1
  | .ok s => do
    if s.kind == .directory then
      complain ("omitting directory " ++ shellQuoted source)
      return 1
    if i.withWay then
      let way := (pathsTo target).dropLast
      if !(← makeWay none i.told way) then return 1
    let there ← ask (.status target false)
    match there with
    | .ok t =>
      if t.kind == .directory then
        complain ("cannot overwrite directory " ++ shellQuoted target ++ " with non-directory")
        return 1
      let through ← ask (.status target true)
      let isSame := match through with | .ok t => t.number == s.number | .error _ => false
      if isSame && t.kind != .link then
        complain (shellQuoted source ++ " and " ++ shellQuoted target ++ " are the same file")
        return 1
    | .error _ => pure ()
    if i.compares then
      if ← i.isSettled source target then return 0
    let mut aside := ""
    let mut isRemoved := false
    if there.toOption.isSome then
      aside ← putAside i.toBringing target
      if aside = "" then
        let _ ← ask (.unlink target)
        isRemoved := true
    match ← ask (.openFile source { reads := true }) with
    | .error e => do
      complainOf ("cannot open " ++ shellQuoted source ++ " for reading") e
      return 1
    | .ok fd => do
      match ← ask (.openFile target { writes := true, create := true, truncate := true, mode := 0o600 }) with
      | .error e => do
        let slashed := target.toList.getLast? == some '/' && e == .isDirectory
        complainOf ("cannot create regular file " ++ shellQuoted target)
          (if slashed then .notDirectory else e)
        closeInput fd
        return 1
      | .ok out => do
        if i.told then
          if isRemoved then sayLine ("removed " ++ shellQuoted target)
          sayLine (shellQuoted source ++ " -> " ++ shellQuoted target ++ aside)
        let failure ← Copying.pass fd out readLimit
        let _ ← ask (.close fd)
        let _ ← ask (.close out)
        let _ ← ask (.setMode target i.mode)
        if i.keepsTime then
          let _ ← ask (.setTime target s.time true)
        match failure with
        | some e => do
          complainOf ("error copying " ++ shellQuoted source ++ " to " ++ shellQuoted target) e
          return 1
        | none => return 0

end Installing

open Installing in
def install (args : List String) : Tool Nat := do
  let (chosen, operands) ← ({
    letters := "bcCdDg:m:o:pst:TS:vZ"
    words := [("directory", "d"), ("compare", "C"), ("group:", "g"), ("mode:", "m"), ("owner:", "o"),
      ("preserve-timestamps", "p"), ("strip", "s"), ("strip-program:", "strip"),
      ("context::", "Z")] ++ bringingWords.filter fun w => w.1 != "force" && w.1 != "interactive" } :
    Choices).given args
  let mode ←
    match chosen.value? "m" with
    | none => pure 0o755
    | some text =>
      match ModeChange.ofString? text with
      | some changes => pure (ModeChange.applyAll (chosen.has "d") 0 0 changes)
      | none => giveUp 1 ("invalid mode " ++ shellQuoted text)
  if chosen.has "d" then
    if operands.isEmpty then misused "missing file operand"
    forEach operands fun path => do
      return if ← makeWay (some mode) (chosen.has "v") (pathsTo path) then 0 else 1
  else
    let i : Installing :=
      { bringingOf chosen with
        mode, withWay := chosen.has "D", keepsTime := chosen.has "p", compares := chosen.has "C" }
    match operands, chosen.value? "t", chosen.has "D" with
    | _ :: _, some dir, true => do
      let _ ← makeWay none i.told (pathsTo dir)
    | _, _, _ => pure ()
    let (sources, goal) ← goalOf chosen operands
    forEach sources fun source => i.file source (goal.pathFor source)

end Ensemble.Utility
