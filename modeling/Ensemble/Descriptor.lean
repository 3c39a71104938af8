import Ensemble.Directive

/-!
# Ensemble.Descriptor

The **descriptor**: the root file as read. Its directives are sorted by kind, each kind in the
order of the file, and the file's own path says what relative paths are relative to.

A descriptor is **loaded** from wherever files are kept. All that loading asks of a place for files
is a `FileView`: to read a file, to tell a file from everything else, and to name a path
canonically. A descriptor is accepted when each of its includes is a file; the first that is not is
reported, by its label if it comes from elsewhere.
-/

namespace Ensemble

/-- The root file as read. -/
structure Descriptor where
  checks : List Check
  includes : List Include
  overrides : List Override
  /-- The root file itself. -/
  fullPath : Path
deriving DecidableEq, Repr

namespace Descriptor

/-- The descriptor of directives found at a path. -/
def ofDirectives (directives : List Directive) (fullPath : Path) : Descriptor where
  checks := directives.filterMap Directive.check?
  includes := directives.filterMap Directive.include?
  overrides := directives.filterMap Directive.override?
  fullPath := fullPath

/-- Is this target of this component supplied by the root file? -/
def hasOverride (d : Descriptor) (component target : String) : Bool :=
  d.overrides.contains ⟨component, target⟩

/-- The directory that includes are relative to. -/
def baseDir (d : Descriptor) : Path :=
  d.fullPath.directory

end Descriptor

/-! ### Loading -/

/-- A place for files, as a reader sees it. -/
structure FileView where
  /-- The text of a file. -/
  read : Path → Except Fault String
  isFile : Path → Bool
  /-- The one path that names a place, however it is spelled. -/
  canonical : Path → Except Fault Path

namespace Descriptor

/-- Read the descriptor at a path. -/
def load (files : FileView) (path : Path) : Except Fault Descriptor := do
  let source ← files.read path
  let fullPath ← files.canonical path
  let directives ← readDirectives (Text.Utf8.encode source)
  return .ofDirectives directives fullPath

/-- What is wrong with an include whose file is missing. -/
def missing (i : Include) (path : Path) : Fault :=
  match i.label with
  | some label => .missingExternal label path
  | none => .missingComponent path

/-- Is every include a file? If not, the first one that is none. -/
def validate (files : FileView) (d : Descriptor) : Except Fault Unit :=
  match d.includes.find? fun i => !files.isFile (i.resolve d.baseDir) with
  | some i => .error (missing i (i.resolve d.baseDir))
  | none => .ok ()

/-- Read the descriptor at a path and make sure that its includes are files. -/
def loadValid (files : FileView) (path : Path) : Except Fault Descriptor := do
  let d ← load files path
  d.validate files
  return d

end Descriptor

end Ensemble
