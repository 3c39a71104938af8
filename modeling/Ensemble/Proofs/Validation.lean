import Ensemble.Project
import Ensemble.Proofs.StoreHistory

/-!
# Ensemble.Proofs.Validation

**What validation tells, and what it is worth.** Validation goes through the includes in order and
tells the first that is not a file. Two things are shown of it.

What is told can be mended (`validate_progresses`). A file that is added takes no other file away
(`FileStore.holdsFile_addFile_iff`), so the first missing include is never an earlier one than
before; and once the file is there whose place has been told, it is a later one. So whoever fetches
what is told is done after as many rounds as there are includes.

What is accepted is what is used (`component_at_resolved`). The place that validation probes, the
directory in which a component's commands run, its file and its name are found on different ways;
the file in that directory is the one that was probed, and the name is its stem.
-/

namespace Ensemble

/-! ### The first missing include -/

/-- The place at which a file is missing, as it is told. -/
def Fault.missingPlace? : Fault → Option Path
  | .missingExternal _ path | .missingComponent path => some path
  | _ => none

namespace Descriptor

/-- The include at position `k` is not a file, but all before it are. -/
structure FirstMissing (d : Descriptor) (files : FileView) (k : Nat) (i : Include) : Prop where
  getElem?_eq : d.includes[k]? = some i
  not_isFile : ¬files.isFile (i.resolve d.baseDir)
  isFile_before : ∀ {j i'}, j < k → d.includes[j]? = some i' →
    files.isFile (i'.resolve d.baseDir)

variable {d : Descriptor} {files files' : FileView} {k k' : Nat} {i i' : Include}

theorem FirstMissing.lt_length (h : d.FirstMissing files k i) : k < d.includes.length :=
  (List.getElem?_eq_some_iff.mp h.getElem?_eq).1

/-- A fault tells the first missing include. -/
theorem validate_eq_error_iff_firstMissing {fault : Fault} :
    d.validate files = .error fault ↔
      ∃ k i, d.FirstMissing files k i ∧ fault = missing i (i.resolve d.baseDir) := by
  rw [validate_eq_error_iff]
  constructor
  · rintro ⟨before, i, behind, hincludes, hbefore, hmissing, rfl⟩
    refine ⟨before.length, i, ⟨by simp [hincludes], hmissing, fun {j i'} hj hi' => ?_⟩, rfl⟩
    rw [hincludes, List.getElem?_append_left hj] at hi'
    exact hbefore i' (List.mem_of_getElem? hi')
  · rintro ⟨k, i, ⟨hi, hmissing, hbefore⟩, rfl⟩
    obtain ⟨hlt, rfl⟩ := List.getElem?_eq_some_iff.mp hi
    refine ⟨d.includes.take k, _, d.includes.drop (k + 1), ?_, fun i' hi' => ?_, hmissing, rfl⟩
    · rw [List.getElem_cons_drop, List.take_append_drop]
    · obtain ⟨j, hj, rfl⟩ := List.mem_take_iff_getElem.mp hi'
      obtain ⟨hjk, hjlt⟩ := Nat.lt_min.mp hj
      exact hbefore hjk (List.getElem?_eq_getElem hjlt)

/-- Either all includes are files, or one is the first that is not. -/
theorem validate_ok_or_firstMissing (d : Descriptor) (files : FileView) :
    d.validate files = .ok () ∨ ∃ k i, d.FirstMissing files k i := by
  cases hvalid : d.validate files with
  | ok => exact .inl rfl
  | error fault =>
      obtain ⟨k, i, h, -⟩ := validate_eq_error_iff_firstMissing.mp hvalid
      exact .inr ⟨k, i, h⟩

/-- Where there are no fewer files, no earlier include is missing. -/
theorem FirstMissing.le_of_files (h : d.FirstMissing files k i) (h' : d.FirstMissing files' k' i')
    (hfiles : ∀ p, files.isFile p → files'.isFile p) : k ≤ k' := by
  by_contra hlt
  exact h'.not_isFile (hfiles _ (h.isFile_before (Nat.lt_of_not_le hlt) h'.getElem?_eq))

/-- Where the first missing include is found besides, only a later one is missing. -/
theorem FirstMissing.lt_of_files (h : d.FirstMissing files k i) (h' : d.FirstMissing files' k' i')
    (hfiles : ∀ p, files.isFile p → files'.isFile p) (hi : files'.isFile (i.resolve d.baseDir)) :
    k < k' := by
  refine Nat.lt_of_le_of_ne (h.le_of_files h' hfiles) ?_
  rintro rfl
  obtain rfl : i' = i := Option.some.inj (h'.getElem?_eq.symm.trans h.getElem?_eq)
  exact h'.not_isFile hi

theorem missingPlace?_missing (i : Include) (path : Path) :
    (missing i path).missingPlace? = some path := by
  unfold missing
  split <;> rfl

end Descriptor

/-! ### Files that are added -/

namespace FileStore

variable {s : FileStore} {p q : Path} {content : String}

/-- What is at a place when a file has been added. -/
theorem lookup_addFile {n : NormalPath} :
    (s.addFile p content).lookup n =
      if p.normal = n then some (.file content)
      else (s.lookup n).or (StoreChange.implied n (.addFile p content)) :=
  lookup_apply (.addFile p content)

/-- **An added file** takes no other file away, and makes no other: what leads to it is not
replaced, and becomes a directory where nothing is. -/
theorem holdsFile_addFile_iff :
    (s.addFile p content).HoldsFile q ↔ p.normal = q.normal ∨ s.HoldsFile q := by
  unfold HoldsFile entry?
  rw [lookup_addFile]
  by_cases hnamed : p.normal = q.normal
  · rw [if_pos hnamed]
    exact iff_of_true ⟨content, rfl⟩ (.inl hnamed)
  · rw [if_neg hnamed, or_iff_right hnamed]
    cases s.lookup q.normal with
    | some e => rw [Option.some_or]
    | none =>
        -- What the file makes besides itself are directories.
        refine iff_of_false ?_ nofun
        rintro ⟨content', himplied⟩
        rw [Option.none_or] at himplied
        obtain ⟨hdirectory, -⟩ := StoreChange.implied_eq_some_iff.mp himplied
        cases hdirectory

theorem isFile_addFile (content : String) (p : Path) (h : s.view.isFile q) :
    (s.addFile p content).view.isFile q :=
  isFile_iff.mpr (holdsFile_addFile_iff.mpr (.inr (isFile_iff.mp h)))

theorem isFile_addFile_self (s : FileStore) (p : Path) (content : String) :
    (s.addFile p content).view.isFile p :=
  isFile_iff.mpr (holdsFile_addFile_iff.mpr (.inl rfl))

end FileStore

namespace Descriptor

variable {d : Descriptor} {s s' : FileStore} {k k' : Nat} {i i' : Include}

/-- What has been accepted is accepted with one more file. -/
theorem validate_addFile (h : d.validate s.view = .ok ()) (p : Path) (content : String) :
    d.validate (s.addFile p content).view = .ok () :=
  validate_eq_ok_iff.mpr fun i hi =>
    FileStore.isFile_addFile content p (validate_eq_ok_iff.mp h i hi)

/-- With the file whose place has been told, only a later include is missing. -/
theorem FirstMissing.progress (h : d.FirstMissing s.view k i) (content : String)
    (h' : d.FirstMissing (s.addFile (i.resolve d.baseDir) content).view k' i') : k < k' :=
  h.lt_of_files h' (fun _ => FileStore.isFile_addFile content _)
    (FileStore.isFile_addFile_self s _ content)

/-! ### Rounds of fetching -/

/-- What validation tells as missing is fetched, one file in each round, with any content. -/
inductive Fetches (d : Descriptor) (s : FileStore) : Nat → FileStore → Prop
  | start : Fetches d s 0 s
  | fetch {rounds : Nat} {s' : FileStore} {fault : Fault} {place : Path}
    (earlier : Fetches d s rounds s') (htold : d.validate s'.view = .error fault)
    (hplace : fault.missingPlace? = some place) (content : String) :
    Fetches d s (rounds + 1) (s'.addFile place content)

/-- As long as an include is missing, its file can be fetched. -/
theorem Fetches.goes_on {rounds : Nat} (h : d.Fetches s rounds s')
    (hmissing : d.FirstMissing s'.view k i) (content : String) :
    d.Fetches s (rounds + 1) (s'.addFile (i.resolve d.baseDir) content) :=
  h.fetch (validate_eq_error_iff_firstMissing.mpr ⟨k, i, hmissing, rfl⟩)
    (missingPlace?_missing i _) content

/-- After as many rounds, at least as many includes are files. -/
theorem Fetches.rounds_le {rounds : Nat} (h : d.Fetches s rounds s') :
    rounds ≤ d.includes.length ∧ ∀ {k i}, d.FirstMissing s'.view k i → rounds ≤ k := by
  induction h with
  | start => exact ⟨Nat.zero_le _, fun _ => Nat.zero_le _⟩
  | fetch earlier htold hplace content ih =>
      obtain ⟨k, i, hmissing, rfl⟩ := validate_eq_error_iff_firstMissing.mp htold
      rw [missingPlace?_missing, Option.some.injEq] at hplace
      subst hplace
      -- The include that was told has at least as many before it as there were rounds, and the next
      -- one that is missing stands behind it.
      have hk := ih.2 hmissing
      refine ⟨Nat.lt_of_le_of_lt hk hmissing.lt_length, fun h' => ?_⟩
      exact Nat.lt_of_le_of_lt hk (hmissing.progress content h')

end Descriptor

/-- **Validation tells the first missing include, and mending it gets on.** For every descriptor and
every store:

* the descriptor is accepted exactly if every include is a file, and a fault is told exactly if it
  is that of the first include that is not: by its label if it has one, with its place;
* a file that is added makes neither a fault of an accepted descriptor nor an earlier include the
  first one missing;
* with a file at the place that was told, the descriptor is accepted or a later include is missing;
* fetching what is told goes on until the descriptor is accepted, for as many rounds as there are
  includes at most. -/
theorem validate_progresses (d : Descriptor) (s : FileStore) :
    (d.validate s.view = .ok () ↔ ∀ i ∈ d.includes, s.HoldsFile (i.resolve d.baseDir)) ∧
    (∀ fault, d.validate s.view = .error fault ↔ ∃ k i, d.FirstMissing s.view k i ∧
      fault = i.label.elim (.missingComponent (i.resolve d.baseDir))
        (.missingExternal · (i.resolve d.baseDir))) ∧
    (∀ p content, d.validate s.view = .ok () → d.validate (s.addFile p content).view = .ok ()) ∧
    (∀ p content k i k' i', d.FirstMissing s.view k i →
      d.FirstMissing (s.addFile p content).view k' i' → k ≤ k') ∧
    (∀ content k i, d.FirstMissing s.view k i →
      let mended := s.addFile (i.resolve d.baseDir) content
      d.validate mended.view = .ok () ∨ ∃ k' i', k < k' ∧ d.FirstMissing mended.view k' i') ∧
    ∀ rounds s', d.Fetches s rounds s' → rounds ≤ d.includes.length ∧
      (d.validate s'.view = .ok () ∨ ∃ place, ∀ content,
        d.Fetches s (rounds + 1) (s'.addFile place content)) := by
  refine ⟨?_, fun fault => ?_, fun p content h => Descriptor.validate_addFile h p content, ?_, ?_,
    fun rounds s' h => ⟨h.rounds_le.1, ?_⟩⟩
  · simp only [Descriptor.validate_eq_ok_iff, FileStore.view, FileStore.isFile_iff, Include.resolve]
  · rw [Descriptor.validate_eq_error_iff_firstMissing]
    refine exists_congr fun k => exists_congr fun i => and_congr_right fun _ => ?_
    unfold Descriptor.missing
    cases i.label <;> rfl
  · intro p content k i k' i' h h'
    exact h.le_of_files h' fun q => FileStore.isFile_addFile content p
  · intro content k i h mended
    rcases d.validate_ok_or_firstMissing mended.view with hvalid | ⟨k', i', h'⟩
    · exact .inl hvalid
    · exact .inr ⟨k', i', h.progress content h', h'⟩
  · rcases d.validate_ok_or_firstMissing s'.view with hvalid | ⟨k, i, hmissing⟩
    · exact .inl hvalid
    · exact .inr ⟨_, h.goes_on hmissing⟩

/-- Two includes of one file, and a third of a path on the way to it. The first round mends two of
them and makes a directory of the third, which the second round makes a file. -/
theorem validate_progresses_in_two_rounds :
    let x : Include := ⟨⟨"api/x.mk"⟩, none⟩
    let api : Include := ⟨⟨"api/."⟩, some "lib"⟩
    let d : Descriptor := ⟨[], [x, ⟨⟨"./api//x.mk"⟩, none⟩, api], [], ⟨"/p/main.mk"⟩⟩
    let none : FileStore := {}
    let once := none.addFile (x.resolve d.baseDir) "one"
    let twice := once.addFile (api.resolve d.baseDir) "two"
    d.FirstMissing none.view 0 x ∧ d.FirstMissing once.view 2 api ∧
      d.validate once.view = .error (.missingExternal "lib" ⟨"/p/api/."⟩) ∧
      d.Fetches none 2 twice ∧ 2 ≤ d.includes.length ∧ d.validate twice.view = .ok () := by
  intro x api d none once twice
  have hx : d.FirstMissing none.view 0 x :=
    ⟨rfl, by decide, fun hj => absurd hj (Nat.not_lt_zero _)⟩
  have hapi : d.FirstMissing once.view 2 api := by
    refine ⟨rfl, by decide, fun {j i'} hj hi' => ?_⟩
    obtain rfl | rfl : j = 0 ∨ j = 1 := by omega
    all_goals
      cases hi'
      decide
  have hfetches : d.Fetches none 2 twice :=
    (Descriptor.Fetches.start.goes_on hx "one").goes_on hapi "two"
  obtain ⟨-, -, -, -, -, hrounds⟩ := validate_progresses d none
  obtain ⟨-, htold, -, -, hmended, -⟩ := validate_progresses d once
  refine ⟨hx, hapi, (htold _).mpr ⟨2, api, hapi, by decide⟩, hfetches,
    (hrounds 2 twice hfetches).1, ?_⟩
  rcases hmended "two" 2 api hapi with hvalid | ⟨k, i, hk, hmissing⟩
  · exact hvalid
  · exact absurd hmissing.lt_length (Nat.not_lt_of_le hk)

/-! ### From the probed place to the component -/

namespace Include

variable {i : Include} {file : String}

/-- The file of a component has the name that its include ends in. -/
theorem file_ofInclude (h : i.path.fileName = some file) (base binRoot : Path) :
    (Component.ofInclude i base binRoot).file = file := by
  rw [Component.ofInclude, resolve, Path.fileName_join base h, Option.getD_some]

/-- The name of a component is the stem of the name that its include ends in. -/
theorem name_ofInclude (h : i.path.fileName = some file) (base binRoot : Path) :
    (Component.ofInclude i base binRoot).name = Path.stemOf file := by
  rw [Component.ofInclude, componentName, Path.fileStem, h, Option.map_some, Option.getD_some]

/-- The file in the directory of a component is at the place where the include is. -/
theorem normal_dir_join (h : i.path.fileName = some file) (base binRoot : Path) :
    ((Component.ofInclude i base binRoot).dir.join ⟨file⟩).normal = (i.resolve base).normal :=
  Path.normal_directory_join (Path.fileName_join base h)

end Include

/-- **What validation has probed is what is used.** For every project and each include whose path
ends in a name, that is, the last segment of the path is one:

* the component has a directory, which is not the empty path, and its file is one segment, the name
  that the include ends in;
* the component's name is the stem of its file;
* the file in the directory has the same normal form as the place that validation probes; so when
  the descriptor is accepted from a store, there is a file in it. -/
theorem component_at_resolved (p : Project) (k : Nat) (i : Include) (file : String)
    (hi : p.descriptor.includes[k]? = some i)
    (hfile : i.path.segments.getLast? = some (.name file)) :
    ∃ c, p.components[k]? = some c ∧ c.dir.text ≠ "" ∧
      c.file = file ∧ c.file ≠ "" ∧ Path.segments ⟨c.file⟩ = [.name c.file] ∧
      Path.fileStem ⟨c.file⟩ = some c.name ∧
      (c.dir.join ⟨c.file⟩).normalize = (i.resolve p.descriptor.baseDir).normalize ∧
      ∀ s : FileStore, p.descriptor.validate s.view = .ok () → s.isFile (c.dir.join ⟨c.file⟩) := by
  have hname := Path.fileName_eq_some_iff.mpr hfile
  have hplain := Path.isPlain_of_fileName hname
  have hprobed := Include.normal_dir_join hname p.descriptor.baseDir p.options.binRoot
  refine ⟨.ofInclude i p.descriptor.baseDir p.options.binRoot, by simp [Project.components, hi],
    fun hempty => Path.directory_ne_empty _ (congrArg Path.mk hempty), ?_⟩
  rw [Include.file_ofInclude hname, Include.name_ofInclude hname]
  refine ⟨rfl, hplain.ne_empty, hplain.segments_eq, hplain.fileStem_eq,
    Path.normalize_eq_iff.mpr hprobed, fun s hvalid => ?_⟩
  obtain ⟨content, hcontent⟩ := FileStore.isFile_iff.mp
    (Descriptor.validate_eq_ok_iff.mp hvalid i (List.mem_of_getElem? hi))
  exact FileStore.isFile_iff.mpr
    ⟨content, (FileStore.entry_congr (Path.normalize_eq_iff.mpr hprobed)).trans hcontent⟩

/-- An include written in a roundabout way, and a root file without a directory. -/
theorem component_at_resolved_roundabout :
    let i : Include := ⟨⟨"api/..//./web/x.tar.mk/."⟩, none⟩
    let p : Project := ⟨⟨[], [i], [], ⟨"main.mk"⟩⟩, ⟨"make", ⟨"/bin"⟩, "DEST", 12⟩⟩
    let s := ({} : FileStore).addFile ⟨"web/x.tar.mk"⟩ ""
    p.descriptor.includes[0]? = some i ∧ i.path.segments.getLast? = some (.name "x.tar.mk") ∧
      p.descriptor.validate s.view = .ok () ∧
      ∃ c, p.components[0]? = some c ∧ c.file = "x.tar.mk" ∧ c.name = "x.tar" ∧
        s.isFile (c.dir.join ⟨c.file⟩) := by
  intro i p s
  have hfile : i.path.segments.getLast? = some (.name "x.tar.mk") := by decide
  have hvalid : p.descriptor.validate s.view = .ok () := by decide
  obtain ⟨c, hc, -, hname, -, -, hstem, -, hused⟩ :=
    component_at_resolved p 0 i "x.tar.mk" rfl hfile
  rw [hname] at hstem
  have hx : Path.fileStem ⟨"x.tar.mk"⟩ = some "x.tar" := by decide
  exact ⟨rfl, hfile, hvalid, c, hc, hname, Option.some.inj (hstem.symm.trans hx), hused s hvalid⟩

end Ensemble
