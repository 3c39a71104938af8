import Ensemble.CommandLine
import Ensemble.Descriptor
import Ensemble.Project
import Ensemble.Settings.Basic

/-!
# Ensemble.Session

A **session**: a command line carried out from beginning to end. Its stages follow one another and
each can fail: the settings are loaded, the flags are laid over them, the root file is loaded and
accepted, and only then is any command run, unless only the overview is wanted. A setting is judged
twice, as it stands in the file and as the flags leave it, so a flag does not mend a bad file.
-/

/-! ### The overview

The **overview** of a project: what would be done, told without doing it. It names the root file and
the tool, then lists the checks, the components and, if there are any, the overrides.
-/

namespace Ensemble

namespace Project

def checkLines (c : Check) : List String :=
  ["  - " ++ c.command, "      expect: " ++ c.equals]

def componentLines (p : Project) (c : Component) : List String :=
  ["  - " ++ c.name, "      dir: " ++ c.dir.text, "      file: " ++ c.file,
    "      " ++ p.options.destVar ++ ": " ++ c.dest.text] ++
    match c.label with
    | some label => ["      extern: " ++ label]
    | none => []

def overrideLines (overrides : List Override) : List String :=
  if overrides = [] then []
  else
    ("overrides (" ++ toString overrides.length ++ "):") ::
      overrides.map fun o => "  - " ++ o.component ++ "/" ++ o.target

/-- The lines of the overview. -/
def overviewLines (p : Project) : List String :=
  ["makeup dry-run", "  descriptor = " ++ p.descriptor.fullPath.text,
    "  tool = " ++ p.options.tool, "",
    "checks (" ++ toString p.descriptor.checks.length ++ "):"] ++
    p.descriptor.checks.flatMap checkLines ++
    ["components (" ++ toString p.components.length ++ "):"] ++
    p.components.flatMap p.componentLines ++
    overrideLines p.descriptor.overrides

/-- The overview, each line ended. -/
def overview (p : Project) : String :=
  String.join (p.overviewLines.map (· ++ "\n"))

end Project

end Ensemble

/-! ### The session -/

namespace Ensemble

/-- Where a session takes place. -/
structure Site where
  files : FileView
  /-- The text of a settings file, or the reason why it cannot be read. -/
  settingsText : Path → Except String String
  /-- The directory of the call. -/
  directory : Path

namespace Site

/-- The settings in a file. -/
def settingsIn (site : Site) (file : Path) : Except Fault Settings :=
  match site.settingsText file with
  | .error reason => .error (.setting (.unreadable file reason))
  | .ok text => Settings.ofText text

/-- The settings of the file that is named, or else of the usual one if it exists, or else the
default settings. -/
def loadSettings (site : Site) : Option Path → Except Fault Settings
  | some file => site.settingsIn file
  | none =>
    if site.files.isFile Settings.defaultFile then site.settingsIn Settings.defaultFile
    else .ok {}

end Site

/-- Settings with the flags laid over them. -/
def Settings.overlay (s : Settings) (flags : Flags) : Settings :=
  { s with descriptor := flags.file.getD s.descriptor, tool := flags.tool.getD s.tool }

namespace Session

/-- A failure in certain circumstances. -/
def failed (contexts : List String) (fault : Fault) : Failure :=
  ⟨contexts, .fault fault⟩

/-- The settings that count, with the flags laid over those of the file. -/
def resolve (site : Site) (flags : Flags) : Except Failure Settings := do
  let fromFile ← (site.loadSettings flags.config).mapError (failed ["failed to load settings"])
  let s := fromFile.overlay flags
  s.validate.mapError .ofFault
  return s

/-- The project that settings lead to. -/
def loadProject (site : Site) (s : Settings) : Except Failure Project := do
  let d ← (Descriptor.loadValid site.files s.descriptor).mapError
    (failed ["failed to load " ++ s.descriptor.text])
  return ⟨d, s.options site.directory⟩

/-- Tell of a project that has been loaded. -/
def loadedEvent (p : Project) : Event :=
  .loaded p.descriptor.fullPath p.descriptor.includes.length p.descriptor.checks.length

/-- Carry out a command on a project, or only tell what would be done. -/
def carryOut (r : Runner σ) (p : Project) (line : CommandLine) : Action σ := fun host =>
  if line.flags.dryRun then
    (Outcome.done host).after [.printed ⟨.out, Text.Utf8.encode p.overview⟩]
  else dispatch r p line.command host

/-- Carry out a command line. -/
def run (site : Site) (r : Runner σ) (line : CommandLine) : Action σ := fun host =>
  match resolve site line.flags with
  | .error failure => ⟨.error failure, [], host⟩
  | .ok settings =>
    match loadProject site settings with
    | .error failure => ⟨.error failure, [.resolved], host⟩
    | .ok p => (carryOut r p line host).after [.resolved, loadedEvent p]

end Session

end Ensemble
