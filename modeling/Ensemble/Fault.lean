import Ensemble.Path
import Ensemble.Text.Quoted

/-!
# Ensemble.Fault

Everything that can go wrong, **by cause**. A `Fault` is what a part of the program reports; its
wording is in `Fault.message`, in one place. A `Failure` is a fault (or a worker that broke down)
together with the circumstances under which it happened, the outermost first: `Failure.chain` is
what is shown to the user, line by line.
-/

namespace Ensemble

/-! ### Causes -/

/-- The directives that need a second line. -/
inductive Opener
  | check
  | external
  | override
deriving DecidableEq, Repr

/-- How a two-line directive is broken. -/
inductive BrokenPair
  /-- No line follows the opener. -/
  | cutOff (opener : Opener)
  /-- The line that follows does not belong to the opener. -/
  | wrongSecond (opener : Opener) (got : String)
deriving DecidableEq, Repr

/-- A failed read or write. -/
inductive IoFault
  | notUtf8
  | writeRefused
  | flushRefused
deriving DecidableEq, Repr

/-- A setting that cannot be used. -/
inductive SettingFault
  | blankTool
  | badDestVar (name : String)
  | zeroLabelWidth
  /-- The settings file could not be read. -/
  | unreadable (file : Path) (reason : String)
deriving DecidableEq, Repr

/-- What a part of the program reports as wrong. -/
inductive Fault
  /-- A directive is broken at a line of the root file. -/
  | parse (line : Nat) (pair : BrokenPair)
  /-- A component that comes from elsewhere has not been fetched. -/
  | missingExternal (label : String) (path : Path)
  /-- A component's file does not exist. -/
  | missingComponent (path : Path)
  /-- A check's output lacks the expected text. -/
  | checkFailed (command expected actual : String)
  /-- A command ended badly: with an exit code, or by a signal. -/
  | commandFailed (command : String) (code : Option Int) (output : String)
  | setting (fault : SettingFault)
  | io (fault : IoFault)
  /-- The settings file is no settings document. -/
  | malformedSettings
  /-- A fault of the surroundings, told by its own texts, the outermost first. -/
  | outside (told : String) (causes : List String)
deriving DecidableEq, Repr

/-! ### Wording -/

/-- The rule of an opener, as messages state it. -/
def Opener.rule : Opener → String
  | .check => "'# check' must be followed by '# equal'"
  | .external => "'# extern' must be followed by 'include'"
  | .override => "'# override' must be followed by a target line"

/-- What the line after an opener is not. -/
def Opener.unmet : Opener → String
  | .check => "line following check is not an 'equal' value"
  | .external => "line following extern is not an 'include' statement"
  | .override => "line following override is not a '<component>/<target>:' rule"

def BrokenPair.message : BrokenPair → String
  | .cutOff opener => opener.rule ++ ", but the file ends here"
  | .wrongSecond opener got => opener.unmet ++ " (got " ++ got ++ ")"

def IoFault.message : IoFault → String
  | .notUtf8 => "stream did not contain valid UTF-8"
  | .writeRefused => "write refused"
  | .flushRefused => "flush refused"

def SettingFault.message : SettingFault → String
  | .blankTool => "`tool` must not be empty"
  | .badDestVar name =>
    "`dest_var` must be a non-empty variable name without '=' (got " ++ Text.quote name ++ ")"
  | .zeroLabelWidth => "`label_width` must be >= 1 (got 0)"
  | .unreadable file reason => "reading settings " ++ file.text ++ ": " ++ reason

/-- How a command ended, in words. -/
def exitPhrase : Option Int → String
  | some code => "exited with status " ++ toString code
  | none => "was terminated by a signal"

/-- The text of a fault. -/
def Fault.message : Fault → String
  | .parse line pair => "parse error at line " ++ toString line ++ ": " ++ pair.message
  | .missingExternal label path =>
    "missing extern dependency '" ++ label ++ "': " ++ path.text ++ " does not exist"
  | .missingComponent path => "missing component file: " ++ path.text ++ " does not exist"
  | .checkFailed command expected actual =>
    "failed check: `" ++ command ++ "` is not '" ++ expected ++ "', got '" ++ actual ++ "'"
  | .commandFailed command code _ => "command `" ++ command ++ "` " ++ exitPhrase code
  | .setting fault => "Configuration error: " ++ fault.message
  | .io fault => "IO error: " ++ fault.message
  | .malformedSettings => "TOML parsing error"
  | .outside told _ => told

/-- The texts of a fault and of what caused it. -/
def Fault.chain : Fault → List String
  | .io fault => [Fault.message (.io fault), fault.message]
  | .outside told causes => told :: causes
  | fault => [fault.message]

/-- A fault's own text comes first. -/
theorem Fault.head?_chain (f : Fault) : f.chain.head? = some f.message := by
  cases f <;> rfl

/-! ### Failures -/

/-- What is at the bottom of a failure. -/
inductive Cause
  | fault (f : Fault)
  /-- A run worker broke down before its command was started. -/
  | workerBroke
deriving DecidableEq, Repr

def Cause.chain : Cause → List String
  | .fault f => f.chain
  | .workerBroke => ["task panicked"]

/-- A cause, and the circumstances under which it was met, the outermost first. -/
structure Failure where
  contexts : List String
  cause : Cause
deriving DecidableEq, Repr

namespace Failure

/-- A fault without further circumstances. -/
def ofFault (f : Fault) : Failure := ⟨[], .fault f⟩

/-- The failure, seen from further out. -/
def within (context : String) (f : Failure) : Failure :=
  { f with contexts := context :: f.contexts }

/-- All texts of a failure, the outermost first. -/
def chain (f : Failure) : List String :=
  f.contexts ++ f.cause.chain

@[simp] theorem chain_within (context : String) (f : Failure) :
    (f.within context).chain = context :: f.chain := rfl

/-- The texts on one line. -/
def line (f : Failure) : String :=
  ": ".intercalate f.chain

end Failure

end Ensemble
