import Ensemble.Fault
import Ensemble.LogRecord
import Ensemble.Session
import Ensemble.ShellRunner
import Ensemble.Text.Lines

/-!
# Ensemble.Program

The **program** as a whole: from the words of a command line, in a world, to what stands on its two
streams at the end and to its exit code.
-/

/-! ### The report

The **report** of a failure, as it is shown at the end: the outermost text, and below it everything
that led to it, set in. Causes are numbered if there is more than one, and the further lines of a
cause stand below its first.
-/

namespace Ensemble

namespace Report

/-- A number set to the right of its column. -/
def numbered (n : Nat) : String :=
  let digits := toString n
  .ofList (List.replicate (5 - digits.length) ' ') ++ digits ++ ": "

/-- A text with a lead before its first line and blanks before the others. -/
def setIn (lead text : String) : String :=
  let (first, more) := Text.cutBetween '\n' text.toList
  let blanks := String.ofList (List.replicate lead.length ' ')
  lead ++ "\n".intercalate (String.ofList first :: more.map fun l => blanks ++ .ofList l)

/-- The causes, one below the other. -/
def causes : List String → List String
  | [] => []
  | [cause] => [setIn "    " cause]
  | many => many.zipIdx.map fun (cause, n) => setIn (numbered n) cause

/-- The report on texts, the outermost first. -/
def ofChain : List String → String
  | [] => ""
  | [text] => text
  | text :: rest => text ++ "\n\nCaused by:\n" ++ "\n".intercalate (causes rest)

end Report

/-- What is shown of a failure at the end. -/
def Failure.report (f : Failure) : String :=
  "makeup error: " ++ Report.ofChain f.chain

end Ensemble

/-! ### The program -/

namespace Ensemble

/-- The world as the place of a session. -/
def World.site (w : World) : Site where
  files := w.view
  settingsText := w.readText
  directory := w.directory

/-- What a call of the program comes to. -/
inductive ProgramRun
  /-- The command line is not carried out. -/
  | refused (fault : UsageFault)
  | ended (level : LogLevel) (outcome : Outcome World)

namespace ProgramRun

/-- The program's name and version. -/
def versionLine : String := "makeup 0.1.0\n"

/-- How the program is called. -/
def usageText : String :=
  "Usage: makeup [OPTIONS] [build|test|clean]\n\nOptions:\n" ++
    "  -f, --file <FILE>        the root descriptor\n" ++
    "      --config <FILE>      the settings\n" ++
    "      --tool <COMMAND>     the command that builds a component\n" ++
    "      --log-level <LEVEL>  error, warn, info, debug or trace\n" ++
    "      --dry-run            tell what would be done\n" ++
    "  -h, --help               tell this\n" ++
    "  -V, --version            tell the version\n"

/-- Carry out a command line that has been read. -/
def carryOut (w : World) (line : CommandLine) : Outcome World :=
  Session.run w.site shellRunner line ⟨w, .sound⟩

/-- Call the program, given the value of the variable that sets the log level. -/
def ofCall (w : World) (argv : List String) (logVariable : Option String) : ProgramRun :=
  match CommandLine.parse argv with
  | .error fault => .refused fault
  | .ok line => .ended (.chosen line.flags.logLevel logVariable) (carryOut w line)

/-- The exit code. -/
def exitCode : ProgramRun → Nat
  | .refused .helpWanted | .refused .versionWanted => 0
  | .refused _ => 2
  | .ended _ o =>
    match o.result with
    | .ok () => 0
    | .error _ => 1

/-- What stands on standard output. -/
def outBytes : ProgramRun → Text.Bytes
  | .refused .versionWanted => Text.Utf8.encode versionLine
  | .refused .helpWanted => Text.Utf8.encode usageText
  | .refused _ => []
  | .ended _ o => Event.streamBytes .out o.trace

/-- What stands on standard error: the log, each record behind the time, between it what commands
have shown there, and at the end the report of the failure. -/
def errBytes (time : String) : ProgramRun → Text.Bytes
  | .refused fault =>
    match fault.message? with
    | some told => Text.Utf8.encode ("error: " ++ told ++ "\n\n" ++ usageText)
    | none => []
  | .ended level o =>
    LogRecord.errorStream level time o.trace ++
      match o.result with
      | .ok () => []
      | .error failure => Text.Utf8.encode (failure.report ++ "\n")

/-- The records of the log. -/
def records : ProgramRun → List LogRecord
  | .refused _ => []
  | .ended level o => LogRecord.kept level o.trace

/-- The world after the call of the program in it. -/
def worldAfter (w : World) : ProgramRun → World
  | .refused _ => w
  | .ended _ o => o.host.world

end ProgramRun

end Ensemble
