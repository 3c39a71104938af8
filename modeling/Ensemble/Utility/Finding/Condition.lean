import Ensemble.Shell.Pattern
import Ensemble.Text.Regex.Reader
import Ensemble.Utility.Describing

/-!
# Ensemble.Utility.Finding.Condition

**What files are looked for**, and what is done with those that are found: conditions are joined by `and`,
`or` and a comma, and something that is done is a condition, too, which holds or not. Conditions are read
from arguments (`readCondition`).
-/

namespace Ensemble.Utility.Finding

/-- A number that is compared: at least, at most, or just it. -/
structure Measure where
  order : Ordering
  value : Nat
deriving Repr

/-- Does a number fit? -/
def Measure.fits (m : Measure) (n : Nat) : Bool :=
  match m.order with
  | .lt => n < m.value
  | .eq => n == m.value
  | .gt => m.value < n

/-- Which bits of a mode count. -/
inductive Bits
  | exactly
  | all
  | some
deriving DecidableEq, Repr

/-- What a file is compared with by its name. -/
inductive NamePart
  | name
  | path
  | target
deriving DecidableEq, Repr

/-- A condition. -/
inductive Condition
  | both (a b : Condition)
  | either (a b : Condition)
  /-- The first does not count. -/
  | after (a b : Condition)
  | unless (a : Condition)
  | always (value : Bool)
  | named (part : NamePart) (pattern : List Char) (ignoresCase : Bool)
  | shaped (r : Text.Regex.Read) (ignoresCase : Bool)
  | kind (letters : List Char) (follows : Bool)
  | size (m : Measure) (unit : Nat)
  | empty
  | newer (time : Int)
  | permitted (bits : Bits) (mode : Nat)
  | links (m : Measure)
  | numbered (m : Measure)
  /-- The age in units of microseconds. -/
  | aged (m : Measure) (unit : Nat) (roundsUp : Bool)
  | owned (isRoot : Bool)
  | same (number : Nat)
  | usable (bits : Nat)
  | print (ending : String)
  | printFormat (text : String)
  | long
  /-- Start a program for each file, or for many together, by the number of what is done. -/
  | start (command : List String) (inPlace : Bool)
  | collect (number : Nat) (command : List String) (inPlace : Bool)
  | delete
  | prune
  | quit

/-- Does something happen in a condition, besides passing over directories? -/
def Condition.acts : Condition → Bool
  | .both a b | .either a b | .after a b => a.acts || b.acts
  | .unless a => a.acts
  | .print _ | .printFormat _ | .long | .start .. | .collect .. | .delete | .quit => true
  | _ => false

/-- How a search goes. -/
structure Search where
  /-- Are links followed: all, or those among the starting points? -/
  follows : Bool := false
  followsFirst : Bool := false
  least : Nat := 0
  most : Option Nat := none
  /-- Is a directory dealt with behind what is in it? -/
  behind : Bool := false
  extended : Bool := false
  /-- The number of collections so far. -/
  collections : Nat := 0
  /-- The test that has been read first, if any. -/
  firstTest : Option String := none
  now : Int := 0

/-- A step of reading, with what is known of the search. -/
abbrev Reading (α : Type) := StateT Search Tool α

/-- Complain, and end. -/
def refuse (told : String) : Reading α :=
  StateT.lift (giveUp 1 told)

def complainAt (told : String) : Reading Unit :=
  StateT.lift (complain told)

/-! ### Values -/

/-- A number behind its sign, and what follows it. -/
def measure? (text : String) : Option (Measure × List Char) :=
  let (order, cs) : Ordering × List Char :=
    match text.toList with
    | '+' :: cs => (.gt, cs)
    | '-' :: cs => (.lt, cs)
    | cs => (.eq, cs)
  let (n, rest) := Shell.Numeral.digits 10 cs
  if rest.length = cs.length then none else some (⟨order, n⟩, rest)

/-- A number that an option is given. -/
def measureOf (option text : String) : Reading Measure := do
  match measure? text with
  | some (m, []) => return m
  | _ => refuse ("non-numeric argument to " ++ option ++ ": " ++ quoted text)

def depthOf (option text : String) : Reading Nat := do
  match text.toNat? with
  | some n => return n
  | none =>
    refuse ("Expected a positive decimal integer argument to " ++ option ++ ", but got " ++ quoted text)

def sizeOfText (text : String) : Reading Condition := do
  match measure? text with
  | some (m, rest) =>
    let unit? : Option Nat :=
      match rest with
      | [] | ['b'] => some 512
      | ['c'] => some 1
      | ['w'] => some 2
      | ['k'] => some 1024
      | ['M'] => some 1048576
      | ['G'] => some 1073741824
      | _ => none
    match unit? with
    | some unit => return .size m unit
    | none =>
      match rest with
      | [c] => refuse ("invalid -size type \x60" ++ c.toString ++ "'")
      | _ => refuse ("Invalid argument \x60" ++ text ++ "' to -size")
  | none => refuse ("Invalid argument \x60" ++ text ++ "' to -size")

def modeOfText (text : String) : Reading Condition := do
  let (bits, mode) : Bits × String :=
    match text.toList with
    | '-' :: cs => (.all, .ofList cs)
    | '/' :: cs => (.some, .ofList cs)
    | _ => (.exactly, text)
  match ModeChange.ofString? mode with
  | some changes =>
    let mode := ModeChange.applyAll false 0 0 changes
    return .permitted (if bits = .some && mode = 0 then .all else bits) mode
  | none => refuse ("invalid mode " ++ quoted text)

def kindsOfText (option text : String) : Reading (List Char) := do
  let (first, more) := Text.cutBetween ',' text.toList
  (first :: more).mapM fun word => do
    match word with
    | [c] =>
      if "bcdpflsD".toList.contains c then return c
      refuse ("Unknown argument to " ++ option ++ ": " ++ c.toString)
    | [] => refuse ("Arguments to " ++ option ++ " should contain at least one letter")
    | _ => refuse ("Must separate multiple arguments to " ++ option ++ " using: ','")

/-- The time of a file that is named. -/
def timeOfNamed (path : String) : Reading Status := do
  match ← StateT.lift (ask (.status path true)) with
  | .ok s => return s
  | .error e => refuse (shellQuoted path ++ ": " ++ e.message)

/-- A regular expression. -/
def shapeOf (text : String) (ignoresCase : Bool) : Reading Condition := do
  let extended := (← get).extended
  match Text.Regex.ofString { extended, ignoresCase } text with
  | .ok r => return .shaped r ignoresCase
  | .error e => refuse ("failed to compile regular expression " ++ quoted text ++ ": " ++ e.message)

/-- The command up to its end, and what follows. -/
def commandUpTo : List String → List String → Option (List String × Bool × List String)
  | _, [] => none
  | held, ";" :: args => some (held.reverse, false, args)
  | held, "+" :: args =>
    if held.head? == some "\x7b\x7d" then some ((held.drop 1).reverse, true, args)
    else commandUpTo ("+" :: held) args
  | held, a :: args => commandUpTo (a :: held) args

/-- Does an argument begin an expression? -/
def looksLikeExpression (isFirst : Bool) (a : String) : Bool :=
  match a.toList with
  | '-' :: _ :: _ => true
  | ['('] | ['!'] => true
  | [')'] | [','] => !isFirst
  | _ => false

/-! ### Reading -/

/-- Note a test, for the sake of options that stand behind it. -/
def noteTest (name : String) : Reading Unit :=
  modify fun s => { s with firstTest := s.firstTest.orElse fun _ => some name }

/-- Warn of an option that stands behind a test. -/
def warnLate (option : String) : Reading Unit := do
  match (← get).firstTest with
  | some test =>
    complainAt ("warning: you have specified the global option " ++ option ++ " after the argument " ++
      test ++ ", but global options are not positional, i.e., " ++ option ++
      " affects tests specified before it as well as those specified after it.  " ++
      "Please specify global options before other arguments.")
  | none => pure ()

/-- A condition that takes a value. -/
def withValue (option value : String) : Reading (Option Condition) := do
  let day := 86400000000
  let minute := 60000000
  let name (part : NamePart) (ignoresCase : Bool) : Reading (Option Condition) :=
    return some (.named part value.toList ignoresCase)
  match option with
  | "-name" => name .name false
  | "-iname" => name .name true
  | "-path" | "-wholename" => name .path false
  | "-ipath" | "-iwholename" => name .path true
  | "-lname" => name .target false
  | "-ilname" => name .target true
  | "-regex" => some <$> shapeOf value false
  | "-iregex" => some <$> shapeOf value true
  | "-type" => return some (.kind (← kindsOfText option value) false)
  | "-xtype" => return some (.kind (← kindsOfText option value) true)
  | "-size" => some <$> sizeOfText value
  | "-newer" | "-anewer" | "-cnewer" => return some (.newer (← timeOfNamed value).time)
  | "-samefile" => return some (.same (← timeOfNamed value).number)
  | "-perm" => some <$> modeOfText value
  | "-links" => return some (.links (← measureOf option value))
  | "-inum" => return some (.numbered (← measureOf option value))
  | "-mtime" | "-atime" | "-ctime" => return some (.aged (← measureOf option value) day false)
  | "-mmin" | "-amin" | "-cmin" => return some (.aged (← measureOf option value) minute true)
  | "-uid" | "-gid" => return some (.owned ((← measureOf option value).fits 0))
  | "-user" | "-group" => return some (.owned (value = "root" || value = "0"))
  | "-fstype" => return some (.always false)
  | "-printf" => return some (.printFormat value)
  | _ => return none

/-- An option that takes a value. -/
def optionWithValue (option value : String) : Reading Bool := do
  match option with
  | "-maxdepth" => do
    let n ← depthOf option value
    warnLate option
    modify fun s => { s with most := some n }
    return true
  | "-mindepth" => do
    let n ← depthOf option value
    warnLate option
    modify fun s => { s with least := n }
    return true
  | "-regextype" => do
    modify fun s => { s with extended := !(["ed", "emacs", "findutils-default", "grep", "posix-basic",
      "posix-minimal-basic", "sed"].contains value) }
    return true
  | _ => return false

def valued : List String :=
  ["-name", "-iname", "-path", "-wholename", "-ipath", "-iwholename", "-lname", "-ilname", "-regex",
    "-iregex", "-type", "-xtype", "-size", "-newer", "-anewer", "-cnewer", "-samefile", "-perm",
    "-links", "-inum", "-mtime", "-atime", "-ctime", "-mmin", "-amin", "-cmin", "-uid", "-gid", "-user",
    "-group", "-fstype", "-printf", "-maxdepth", "-mindepth", "-regextype"]

/-- A condition that takes no value. -/
def withoutValue? : String → Option Condition
  | "-true" => some (.always true)
  | "-false" | "-nouser" | "-nogroup" => some (.always false)
  | "-empty" => some .empty
  | "-executable" => some (.usable 0o111)
  | "-readable" => some (.usable 0o444)
  | "-writable" => some (.usable 0o222)
  | "-print" => some (.print "\n")
  | "-print0" => some (.print "\x00")
  | "-ls" => some .long
  | "-delete" => some .delete
  | "-prune" => some .prune
  | "-quit" => some .quit
  | _ => none

/-- A word that joins conditions. -/
def isJoint (a : String) : Bool :=
  ["-a", "-and", "-o", "-or", ",", ")"].contains a

mutual

/-- Conditions with commas between them, and what follows. -/
def readCondition : Nat → List String → Reading (Condition × List String)
  | 0, _ => refuse "expression is too deep"
  | fuel + 1, args => do
    let (first, rest) ← readChoice fuel args
    match rest with
    | "," :: rest => do
      if rest.isEmpty then refuse "expected an expression after ','"
      let (second, rest) ← readCondition fuel rest
      return (.after first second, rest)
    | rest => return (first, rest)

/-- Conditions of which one must hold. -/
def readChoice : Nat → List String → Reading (Condition × List String)
  | 0, _ => refuse "expression is too deep"
  | fuel + 1, args => do
    let (first, rest) ← readRow fuel args
    match rest with
    | op :: rest => do
      if op = "-o" || op = "-or" then
        if rest.isEmpty then refuse ("expected an expression after '" ++ op ++ "'")
        let (second, rest) ← readChoice fuel rest
        return (.either first second, rest)
      else return (first, op :: rest)
    | [] => return (first, [])

/-- Conditions which must all hold. -/
def readRow : Nat → List String → Reading (Condition × List String)
  | 0, _ => refuse "expression is too deep"
  | fuel + 1, args => do
    let (first, rest) ← readOne fuel args
    match rest with
    | [] => return (first, [])
    | a :: more =>
      if a = "-a" || a = "-and" then
        if more.isEmpty then refuse ("expected an expression after '" ++ a ++ "'")
        let (second, rest) ← readRow fuel more
        return (.both first second, rest)
      else if isJoint a then return (first, rest)
      else
        let (second, rest) ← readRow fuel rest
        return (.both first second, rest)

/-- One condition. -/
def readOne : Nat → List String → Reading (Condition × List String)
  | 0, _ => refuse "expression is too deep"
  | _, [] => refuse "invalid expression; expected to find more"
  | fuel + 1, a :: args => do
    if a = "(" then
      match args with
      | [] =>
        refuse ("invalid expression; expected to find a ')' but didn't see one. " ++
          "Perhaps you need an extra predicate after '('")
      | ")" :: _ => refuse "invalid expression; empty parentheses are not allowed."
      | args => do
        let (c, rest) ← readCondition fuel args
        match rest with
        | ")" :: rest => return (c, rest)
        | _ =>
          refuse ("invalid expression; I was expecting to find a ')' somewhere but did not see one.")
    else if a = "!" || a = "-not" then
      if args.isEmpty then refuse ("expected an expression after '" ++ a ++ "'")
      let (c, rest) ← readOne fuel args
      return (.unless c, rest)
    else if a = ")" then
      refuse "invalid expression; you have too many ')'"
    else if isJoint a then
      refuse ("invalid expression; you have used a binary operator '" ++ a ++ "' with nothing before it.")
    else if valued.contains a then
      match args with
      | [] => refuse ("missing argument to \x60" ++ a ++ "'")
      | value :: rest => do
        if ← optionWithValue a value then return (.always true, rest)
        match ← withValue a value with
        | some c => do
          noteTest a
          return (c, rest)
        | none => return (.always true, rest)
    else
      match withoutValue? a with
      | some c => do
        noteTest a
        if a = "-delete" then modify fun s => { s with behind := true }
        return (c, args)
      | none =>
        match a with
        | "-depth" | "-d" => do
          warnLate a
          modify fun s => { s with behind := true }
          return (.always true, args)
        | "-follow" => do
          modify fun s => { s with follows := true }
          return (.always true, args)
        | "-xdev" | "-mount" | "-noleaf" | "-daystart" | "-warn" | "-nowarn" | "-ignore_readdir_race"
        | "-noignore_readdir_race" => return (.always true, args)
        | "-exec" | "-execdir" | "-ok" | "-okdir" =>
          match commandUpTo [] args with
          | some (command, isMany, rest) => do
            if command.isEmpty && !isMany then refuse ("missing argument to \x60" ++ a ++ "'")
            noteTest a
            let inPlace := a = "-execdir" || a = "-okdir"
            if isMany then
              let number := (← get).collections
              modify fun s => { s with collections := number + 1 }
              return (.collect number command inPlace, rest)
            else return (.start command inPlace, rest)
          | none => refuse ("missing argument to \x60" ++ a ++ "'")
        | _ =>
          if a.startsWith "-" && 1 < a.length then refuse ("unknown predicate \x60" ++ a ++ "'")
          else do
            complainAt ("paths must precede expression: \x60" ++ a ++ "'")
            let isThere ← StateT.lift (ask (.status a false))
            if isThere.toOption.isSome then
              let told := match (← get).firstTest with
                | some t => "possible unquoted pattern after predicate \x60" ++ t ++ "'?"
                | none => "possible unquoted pattern?"
              refuse told
            StateT.lift (quit 1)

end

end Ensemble.Utility.Finding
