import Ensemble.FileStore
import Ensemble.Proofs.BrokenPairs
import Ensemble.Proofs.Segments

/-!
# Ensemble.Proofs.Loading

**What is loaded from a file store.** The entry at the root file's path, what its text says and the
entries at the includes' places decide everything: which descriptor is loaded, or which fault is
told first. The main result is `loadValid_by_entries`.

Wherever files are kept, loading is reading and then validation (`Descriptor.loadValid_eq_ok_iff`),
and validation goes through the includes in their order (`Descriptor.validate_eq_error_iff`). What
is read from a store depends on the entry at the path (`FileStore.load_of_file`); a text that is
refused has a broken pair (`exists_brokenBehind`), as a text is never garbled. A path matters only
through its normal form, as that is what entries are kept by and what the descriptor is put under
(`FileStore.loadValid_congr`).
-/

namespace Ensemble

/-! ### Wherever files are kept -/

namespace Descriptor

variable {files : FileView} {p : Path} {d : Descriptor} {fault : Fault}

theorem validate_eq_ok_iff :
    d.validate files = .ok () ↔ ∀ i ∈ d.includes, files.isFile (d.baseDir.join i.path) := by
  unfold validate
  split
  · rename_i i hfind
    obtain ⟨hi, before, behind, hincludes, -⟩ := List.find?_eq_some_iff_append.mp hfind
    refine ⟨nofun, fun h => ?_⟩
    have hfile := h i (by simp [hincludes])
    simp [Include.resolve, hfile] at hi
  · rename_i hfind
    refine ⟨fun _ i hi => ?_, fun _ => rfl⟩
    simpa [Include.resolve] using List.find?_eq_none.mp hfind i hi

/-- The first include that is not a file is told. -/
theorem validate_eq_error_iff :
    d.validate files = .error fault ↔ ∃ before i behind, d.includes = before ++ i :: behind ∧
      (∀ j ∈ before, files.isFile (d.baseDir.join j.path)) ∧
      ¬files.isFile (d.baseDir.join i.path) ∧ fault = missing i (d.baseDir.join i.path) := by
  constructor
  · intro h
    unfold validate at h
    split at h
    · rename_i i hfind
      cases h
      obtain ⟨hi, before, behind, hincludes, hbefore⟩ := List.find?_eq_some_iff_append.mp hfind
      refine ⟨before, i, behind, hincludes, fun j hj => ?_, ?_, rfl⟩
      · simpa [Include.resolve] using hbefore j hj
      · simpa [Include.resolve] using hi
    · cases h
  · rintro ⟨before, i, behind, hincludes, hbefore, hi, rfl⟩
    have hfind : d.includes.find? (fun i => !files.isFile (i.resolve d.baseDir)) = some i := by
      refine List.find?_eq_some_iff_append.mpr ⟨?_, before, behind, hincludes, fun j hj => ?_⟩
      · simpa [Include.resolve] using hi
      · simpa [Include.resolve] using hbefore j hj
    rw [validate, hfind]
    rfl

theorem loadValid_eq :
    loadValid files p = (load files p).bind fun d => (d.validate files).map fun _ => d := by
  unfold loadValid
  cases load files p with
  | error fault => rfl
  | ok d =>
      change (d.validate files).bind _ = (d.validate files).map _
      cases d.validate files <;> rfl

theorem loadValid_eq_ok_iff :
    loadValid files p = .ok d ↔ load files p = .ok d ∧ d.validate files = .ok () := by
  rw [loadValid_eq]
  cases load files p with
  | error fault => simp [Except.bind]
  | ok d' =>
      rw [Except.ok.injEq, Except.bind]
      constructor
      · intro h
        cases hvalid : d'.validate files with
        | error fault =>
            rw [hvalid] at h
            cases h
        | ok =>
            rw [hvalid] at h
            cases h
            exact ⟨rfl, hvalid⟩
      · rintro ⟨rfl, hvalid⟩
        rw [hvalid]
        rfl

theorem loadValid_eq_error_iff :
    loadValid files p = .error fault ↔ load files p = .error fault ∨
      ∃ d, load files p = .ok d ∧ d.validate files = .error fault := by
  rw [loadValid_eq]
  cases load files p with
  | error fault' => simp [Except.bind]
  | ok d => cases hvalid : d.validate files <;> simp [Except.bind, Except.map, hvalid]

end Descriptor

/-! ### From a store -/

namespace FileStore

/-- There is a file at this path. -/
def HoldsFile (s : FileStore) (p : Path) : Prop :=
  ∃ content, s.entry? p = some (.file content)

theorem isFile_iff {s : FileStore} {p : Path} : s.isFile p = true ↔ s.HoldsFile p := by
  unfold isFile HoldsFile
  split
  · rename_i content h
    exact ⟨fun _ => ⟨content, h⟩, fun _ => rfl⟩
  · rename_i h
    exact ⟨nofun, fun ⟨content, hcontent⟩ => absurd hcontent (h content)⟩

/-- There is a file at this path, and its directives are these. -/
def Declares (s : FileStore) (p : Path) (directives : List Directive) : Prop :=
  ∃ text, s.entry? p = some (.file text) ∧
    readDirectives (Text.Utf8.encode text) = .ok directives

/-- What is wrong with the root file at `p` and told first. -/
inductive Refuses (s : FileStore) (p : Path) : Fault → Prop
  | absent (hentry : s.entry? p = none) : Refuses s p (notFound p)
  | directory (hentry : s.entry? p = some .directory) :
    Refuses s p (.outside ("Is a directory: " ++ Text.quote p.text) [])
  | broken {text : String} {n : Nat} {pair : BrokenPair}
    (hentry : s.entry? p = some (.file text))
    (hread : readDirectives (Text.Utf8.encode text) = .error (.parse n pair)) :
    Refuses s p (.parse n pair)
  /-- All includes before `i` are files, but `i` is not. -/
  | missing {directives : List Directive} {before behind : List Include} {i : Include}
    (hdeclares : s.Declares p directives)
    (hincludes : directives.filterMap Directive.include? = before ++ i :: behind)
    (hbefore : ∀ j ∈ before, s.HoldsFile (p.normalize.directory.join j.path))
    (hmissing : ¬s.HoldsFile (p.normalize.directory.join i.path)) :
    Refuses s p (Descriptor.missing i (p.normalize.directory.join i.path))

variable {s : FileStore} {p q : Path} {d : Descriptor} {fault : Fault}

/-- What is read from a file depends on its text and on the normal form of its path. -/
theorem load_of_file {text : String} (h : s.entry? p = some (.file text)) :
    Descriptor.load s.view p =
      (readDirectives (Text.Utf8.encode text)).map (Descriptor.ofDirectives · p.normalize) := by
  have hread : s.view.read p = .ok text := by simp [view, read, h]
  have hcanonical : s.view.canonical p = .ok p.normalize := by simp [view, canonical, h]
  rw [Descriptor.load, hread, hcanonical]
  change (readDirectives (Text.Utf8.encode text)).bind _ = _
  cases readDirectives (Text.Utf8.encode text) <;> rfl

theorem load_of_declares {directives : List Directive} (h : s.Declares p directives) :
    Descriptor.load s.view p = .ok (.ofDirectives directives p.normalize) := by
  obtain ⟨text, hentry, hread⟩ := h
  rw [load_of_file hentry, hread]
  rfl

theorem load_of_read_error (h : s.read p = .error fault) :
    Descriptor.load s.view p = .error fault := by
  have hread : s.view.read p = .error fault := h
  rw [Descriptor.load, hread]
  rfl

/-- A root file that is not read has no entry, is a directory or has a broken pair. -/
theorem load_cases (s : FileStore) (p : Path) :
    (∃ directives, s.Declares p directives) ∨
      ∃ fault, s.Refuses p fault ∧ Descriptor.load s.view p = .error fault := by
  cases hentry : s.entry? p with
  | none => exact .inr ⟨_, .absent hentry, load_of_read_error (by rw [read, hentry])⟩
  | some entry =>
      cases entry with
      | directory => exact .inr ⟨_, .directory hentry, load_of_read_error (by rw [read, hentry])⟩
      | file text =>
          cases hread : readDirectives (Text.Utf8.encode text) with
          | ok directives => exact .inl ⟨directives, text, hentry, hread⟩
          | error fault =>
              obtain ⟨-, n, pair, rfl, -⟩ := exists_brokenBehind hread
              exact .inr ⟨_, .broken hentry hread, by rw [load_of_file hentry, hread]; rfl⟩

theorem load_eq_ok_iff :
    Descriptor.load s.view p = .ok d ↔
      ∃ directives, s.Declares p directives ∧ d = .ofDirectives directives p.normalize := by
  constructor
  · intro h
    rcases load_cases s p with ⟨directives, hdeclares⟩ | ⟨fault, -, hload⟩
    · exact ⟨directives, hdeclares, Except.ok.inj (h.symm.trans (load_of_declares hdeclares))⟩
    · cases h.symm.trans hload
  · rintro ⟨directives, hdeclares, rfl⟩
    exact load_of_declares hdeclares

theorem loadValid_eq_ok_iff :
    Descriptor.loadValid s.view p = .ok d ↔ ∃ directives, s.Declares p directives ∧
      (∀ i ∈ directives.filterMap Directive.include?,
        s.HoldsFile (p.normalize.directory.join i.path)) ∧
      d = .ofDirectives directives p.normalize := by
  rw [Descriptor.loadValid_eq_ok_iff, load_eq_ok_iff, Descriptor.validate_eq_ok_iff]
  simp only [view, isFile_iff]
  constructor
  · rintro ⟨⟨directives, hdeclares, rfl⟩, hfiles⟩
    exact ⟨directives, hdeclares, hfiles, rfl⟩
  · rintro ⟨directives, hdeclares, hfiles, rfl⟩
    exact ⟨⟨directives, hdeclares, rfl⟩, hfiles⟩

theorem loadValid_of_refuses (h : s.Refuses p fault) :
    Descriptor.loadValid s.view p = .error fault := by
  rw [Descriptor.loadValid_eq_error_iff]
  cases h with
  | absent hentry => exact .inl (load_of_read_error (by rw [read, hentry]))
  | directory hentry => exact .inl (load_of_read_error (by rw [read, hentry]))
  | broken hentry hread => exact .inl (by rw [load_of_file hentry, hread]; rfl)
  | missing hdeclares hincludes hbefore hmissing =>
      refine .inr ⟨_, load_of_declares hdeclares, Descriptor.validate_eq_error_iff.mpr ?_⟩
      simp only [view, isFile_iff]
      exact ⟨_, _, _, hincludes, hbefore, hmissing, rfl⟩

theorem loadValid_eq_error_iff :
    Descriptor.loadValid s.view p = .error fault ↔ s.Refuses p fault := by
  refine ⟨fun h => ?_, loadValid_of_refuses⟩
  rcases Descriptor.loadValid_eq_error_iff.mp h with hload | ⟨d, hload, hinvalid⟩
  · rcases load_cases s p with ⟨directives, hdeclares⟩ | ⟨fault', hrefuses, hload'⟩
    · cases hload.symm.trans (load_of_declares hdeclares)
    · cases hload.symm.trans hload'
      exact hrefuses
  · obtain ⟨directives, hdeclares, rfl⟩ := load_eq_ok_iff.mp hload
    simp only [Descriptor.validate_eq_error_iff, view, isFile_iff] at hinvalid
    obtain ⟨before, i, behind, hincludes, hbefore, hmissing, rfl⟩ := hinvalid
    exact .missing hdeclares hincludes hbefore hmissing

/-- From a file the same is loaded under every spelling of its path. -/
theorem loadValid_congr (hspelling : q.normalize = p.normalize) (h : s.HoldsFile p) :
    Descriptor.loadValid s.view q = Descriptor.loadValid s.view p := by
  obtain ⟨text, hentry⟩ := h
  have hentry' : s.entry? q = some (.file text) := by
    unfold entry?
    rw [Path.normalize_eq_iff.mp hspelling]
    exact hentry
  rw [Descriptor.loadValid, Descriptor.loadValid, load_of_file hentry, load_of_file hentry',
    hspelling]

end FileStore

/-- **Loading a root file.** For every store and every path, where `base` is the directory that the
normal form of the path lies in:

* a descriptor is loaded exactly if there is a file at the path, its text is accepted and there is a
  file at the place of each include, seen from `base`; it holds the directives by kind, in order,
  under the normal form of the path;
* a fault is told exactly if it is the first: of the entry at the path, of its text, or of the first
  include that is not a file, which is told with its place as it was joined;
* but for the faults of the entry, which tell the path as it was written, another spelling of the
  path makes no difference. -/
theorem loadValid_by_entries (s : FileStore) (p : Path) :
    let base := p.normalize.directory
    (∀ d, Descriptor.loadValid s.view p = .ok d ↔ ∃ text directives,
      s.entry? p = some (.file text) ∧
      readDirectives (Text.Utf8.encode text) = .ok directives ∧
      (∀ i ∈ directives.filterMap Directive.include?, s.HoldsFile (base.join i.path)) ∧
      d = ⟨directives.filterMap Directive.check?, directives.filterMap Directive.include?,
        directives.filterMap Directive.override?, p.normalize⟩) ∧
    (∀ fault, Descriptor.loadValid s.view p = .error fault ↔ s.Refuses p fault) ∧
    ∀ q : Path, q.normalize = p.normalize →
      (∀ told causes, Descriptor.loadValid s.view p ≠ .error (.outside told causes)) →
      Descriptor.loadValid s.view q = Descriptor.loadValid s.view p := by
  intro base
  refine ⟨fun d => ?_, fun fault => FileStore.loadValid_eq_error_iff, fun q hq hinside => ?_⟩
  · rw [FileStore.loadValid_eq_ok_iff]
    constructor
    · rintro ⟨directives, ⟨text, hentry, hread⟩, hfiles, hd⟩
      exact ⟨text, directives, hentry, hread, hfiles, hd⟩
    · rintro ⟨text, directives, hentry, hread, hfiles, hd⟩
      exact ⟨directives, ⟨text, hentry, hread⟩, hfiles, hd⟩
  · refine FileStore.loadValid_congr hq ?_
    -- Without a file at the path the fault is one of its entry.
    cases hentry : s.entry? p with
    | none => exact absurd (FileStore.loadValid_of_refuses (.absent hentry)) (hinside _ _)
    | some entry =>
        cases entry with
        | directory =>
            exact absurd (FileStore.loadValid_of_refuses (.directory hentry)) (hinside _ _)
        | file text => exact ⟨text, hentry⟩

/-- An include that comes from elsewhere is missing, and so is one behind it; the root file is asked
for by a roundabout spelling. -/
theorem loadValid_by_entries_roundabout :
    let files := (({} : FileStore).addFile ⟨"/p/main.mk"⟩
      "include api/x.mk\n# extern lib\ninclude ../lib/y.mk\ninclude z.mk\n").addFile
      ⟨"/p/./api//x.mk"⟩ ""
    let p : Path := ⟨"/p/main.mk"⟩
    let q : Path := ⟨"/p/api/.././main.mk"⟩
    let fault : Fault := .missingExternal "lib" ⟨"/p/../lib/y.mk"⟩
    q.normalize = p.normalize ∧ files.Refuses p fault ∧
      Descriptor.loadValid files.view q = .error fault := by
  intro files p q fault
  obtain ⟨-, hrefuses, hspelling⟩ := loadValid_by_entries files p
  have hsame : q.normalize = p.normalize := by decide
  have hp : Descriptor.loadValid files.view p = .error fault := by decide
  have hinside (told : String) (causes : List String) :
      Descriptor.loadValid files.view p ≠ .error (.outside told causes) := by
    simp [hp, fault]
  exact ⟨hsame, (hrefuses fault).mp hp, (hspelling q hsame hinside).trans hp⟩

end Ensemble
