import Ensemble.Proofs.Loading

/-!
# Ensemble.Proofs.StoreHistory

**A file store by its history.** What is at a path follows from the changes that have been made. The
main result, `entry_by_history`, says how: the last change that names the path counts, under
whatever spelling; at a path that none names there is a directory if a file has been added further
down; elsewhere there is nothing. And whoever reads, probes or canonicalizes a path is answered by
what is there.

A change makes one entry for certain, and an addition of a file makes directories where nothing is
(`StoreChange.lookup_apply`). So after changes that do not name a place there is what was there
before them, or else what one of them implies (`lookup_foldl_apply`).
-/

namespace Ensemble

/-! ### On the way to a path -/

/-- The path `a` is met on the way to `p`: its segments are the first of `p`, but not all. -/
def Path.IsProperAncestor (a p : Path) : Prop :=
  ∃ more, more ≠ [] ∧ p.segments = a.segments ++ more

namespace NormalPath

/-- The directories that lead to a place have fewer of its names, from the first on. -/
theorem mem_ancestors_iff {m n : NormalPath} :
    m ∈ n.ancestors ↔ m ≠ empty ∧ m.absolute = n.absolute ∧
      ∃ more, more ≠ [] ∧ n.names = m.names ++ more := by
  simp only [ancestors, List.mem_filter, List.mem_map, List.mem_reverse, List.mem_range,
    decide_eq_true_eq]
  constructor
  · rintro ⟨⟨k, hk, rfl⟩, hne⟩
    refine ⟨hne, rfl, n.names.drop k, ?_, (List.take_append_drop k n.names).symm⟩
    simpa using hk
  · rintro ⟨hne, habsolute, more, hmore, hnames⟩
    refine ⟨⟨m.names.length, ?_, ?_⟩, hne⟩
    · rw [hnames, List.length_append]
      have := List.length_pos_iff.mpr hmore
      omega
    · rw [hnames, List.take_left, ← habsolute]

end NormalPath

namespace Path

theorem normalize_text_eq_empty_iff {p : Path} : p.normalize.text = "" ↔ p.normal = .empty := by
  constructor
  · intro h
    have hsame : p.normalize = normalize ⟨""⟩ := congrArg Path.mk h
    rw [normalize_eq_iff.mp hsame]
    rfl
  · intro h
    rw [normalize, h]
    rfl

/-- The directories that lead to a place, told by spelled paths. -/
theorem normal_mem_ancestors_iff {q p : Path} :
    q.normal ∈ p.normal.ancestors ↔
      q.normalize.text ≠ "" ∧ q.normalize.IsProperAncestor p.normalize := by
  rw [NormalPath.mem_ancestors_iff, Ne, Ne, normalize_text_eq_empty_iff, IsProperAncestor,
    segments_normalize, segments_normalize]
  refine and_congr_right fun hne => ?_
  generalize q.normal = m at hne
  generalize p.normal = n
  obtain ⟨absolute, names⟩ := m
  obtain ⟨absolute', names'⟩ := n
  constructor
  · rintro ⟨rfl, more, hmore, rfl⟩
    exact ⟨more.map .name, by simpa using hmore, by simp⟩
  · rintro ⟨more, hmore, hsegments⟩
    -- The root is a segment, so two paths of which one begins the other both have it or neither.
    have hsame : absolute = absolute' := by
      cases absolute <;> cases absolute' <;> try rfl
      · cases names with
        | nil => exact absurd rfl hne
        | cons name names => simp at hsegments
      · cases names' <;> simp at hsegments
    subst hsame
    rw [List.append_assoc, List.append_cancel_left_eq] at hsegments
    obtain ⟨front, rest, rfl, hfront, rfl⟩ := List.map_eq_append_iff.mp hsegments
    obtain rfl : front = names := List.map_injective_iff.mpr (fun _ _ => Segment.name.inj) hfront
    exact ⟨rfl, rest, by simpa using hmore, rfl⟩

end Path

/-! ### Changes -/

/-- A change of a file store. -/
inductive StoreChange
  | addFile (path : Path) (content : String)
  | addDirectory (path : Path)
deriving DecidableEq, Repr

namespace StoreChange

/-- The path that a change names. -/
def path : StoreChange → Path
  | addFile path _ => path
  | addDirectory path => path

/-- What a change puts at the path that it names. -/
def made : StoreChange → StoreEntry
  | addFile _ content => .file content
  | addDirectory _ => .directory

def apply (s : FileStore) : StoreChange → FileStore
  | addFile path content => s.addFile path content
  | addDirectory path => s.addDirectory path

/-- What a change puts at a place that it does not name, if nothing is there. -/
def implied (n : NormalPath) : StoreChange → Option StoreEntry
  | addFile path _ => if n ∈ path.normal.ancestors then some .directory else none
  | addDirectory _ => none

theorem implied_eq_some_iff {c : StoreChange} {n : NormalPath} {e : StoreEntry} :
    c.implied n = some e ↔
      e = .directory ∧ ∃ p content, c = addFile p content ∧ n ∈ p.normal.ancestors := by
  cases c with
  | addFile p content =>
      by_cases h : n ∈ p.normal.ancestors
      · simp [implied, h, eq_comm]
      · simp only [implied, if_neg h, reduceCtorEq, false_iff, not_and, not_exists]
        rintro - _ _ hp hmem
        cases hp
        exact h hmem
  | addDirectory p => simp [implied]

end StoreChange

namespace FileStore

/-- The store that changes make of an empty one. -/
def after (changes : List StoreChange) : FileStore :=
  changes.foldl StoreChange.apply {}

variable {s : FileStore} {m n : NormalPath}

theorem lookup_putIfAbsent :
    (s.putIfAbsent m).lookup n = (s.lookup n).or (if n = m then some .directory else none) := by
  unfold putIfAbsent
  by_cases hn : n = m
  · subst hn
    cases h : s.lookup n <;> simp [h]
  · rw [if_neg hn, Option.or_none]
    split
    · rfl
    · exact lookup_put_of_ne _ _ hn

theorem lookup_foldl_putIfAbsent (ms : List NormalPath) :
    (ms.foldl putIfAbsent s).lookup n =
      (s.lookup n).or (if n ∈ ms then some .directory else none) := by
  induction ms generalizing s with
  | nil => simp
  | cons m ms ih =>
      rw [List.foldl_cons, ih, lookup_putIfAbsent, Option.or_assoc]
      by_cases hm : n = m <;> simp [hm]

/-- **One change**: the place that it names holds what it makes, and another place what it held
before, or else what the change implies. -/
theorem lookup_apply (c : StoreChange) :
    (c.apply s).lookup n =
      if c.path.normal = n then some c.made else (s.lookup n).or (c.implied n) := by
  by_cases h : c.path.normal = n
  · subst h
    cases c <;> simp [StoreChange.apply, StoreChange.made, StoreChange.path, addFile, addDirectory]
  · rw [if_neg h]
    cases c with
    | addFile p content =>
        have hne : n ≠ p.normal := Ne.symm h
        rw [StoreChange.apply, addFile, lookup_put_of_ne _ _ hne, lookup_foldl_putIfAbsent]
        rfl
    | addDirectory p =>
        have hne : n ≠ p.normal := Ne.symm h
        rw [StoreChange.apply, addDirectory, lookup_put_of_ne _ _ hne]
        exact (Option.or_none).symm

/-- **Changes that do not name a place** leave there what it held, or else what one of them
implies. -/
theorem lookup_foldl_apply {changes : List StoreChange}
    (h : ∀ c ∈ changes, c.path.normal ≠ n) :
    (changes.foldl StoreChange.apply s).lookup n =
      (s.lookup n).or (changes.findSome? (·.implied n)) := by
  induction changes generalizing s with
  | nil => simp
  | cons c changes ih =>
      obtain ⟨hc, hchanges⟩ := List.forall_mem_cons.mp h
      rw [List.foldl_cons, ih hchanges, lookup_apply, if_neg hc, Option.or_assoc,
        List.findSome?_cons]
      cases c.implied n <;> rfl

variable {changes : List StoreChange} {q : Path}

/-- The last change that names a path makes what is there. -/
theorem entry_of_last {before behind : List StoreChange} {c : StoreChange}
    (hchanges : changes = before ++ c :: behind) (hc : c.path.normalize = q.normalize)
    (hbehind : ∀ c' ∈ behind, c'.path.normalize ≠ q.normalize) :
    entry? (after changes) q = some c.made := by
  have hothers : ∀ c' ∈ behind, c'.path.normal ≠ q.normal := fun c' hc' =>
    mt Path.normalize_eq_iff.mpr (hbehind c' hc')
  unfold entry? after
  rw [hchanges, List.foldl_append, List.foldl_cons, lookup_foldl_apply hothers, lookup_apply,
    if_pos (Path.normalize_eq_iff.mp hc), Option.some_or]

/-- The path is on the way to a file that one of the changes adds. The empty path is on the way to
none. -/
def Implied (changes : List StoreChange) (q : Path) : Prop :=
  q.normalize.text ≠ "" ∧ ∃ p content, .addFile p content ∈ changes ∧
    q.normalize.IsProperAncestor p.normalize

theorem implied_iff :
    Implied changes q ↔ ∃ c ∈ changes, c.implied q.normal = some .directory := by
  constructor
  · rintro ⟨hne, p, content, hmem, hancestor⟩
    exact ⟨_, hmem, StoreChange.implied_eq_some_iff.mpr
      ⟨rfl, p, content, rfl, Path.normal_mem_ancestors_iff.mpr ⟨hne, hancestor⟩⟩⟩
  · rintro ⟨c, hmem, himplied⟩
    obtain ⟨-, p, content, rfl, hancestor⟩ := StoreChange.implied_eq_some_iff.mp himplied
    obtain ⟨hne, hancestor⟩ := Path.normal_mem_ancestors_iff.mp hancestor
    exact ⟨hne, p, content, hmem, hancestor⟩

/-- At a path that no change names there is what the changes imply. -/
theorem entry_of_unnamed (h : ∀ c ∈ changes, c.path.normalize ≠ q.normalize) :
    entry? (after changes) q = changes.findSome? (·.implied q.normal) := by
  have hothers : ∀ c ∈ changes, c.path.normal ≠ q.normal := fun c hc =>
    mt Path.normalize_eq_iff.mpr (h c hc)
  unfold entry? after
  rw [lookup_foldl_apply hothers]
  rfl

theorem entry_of_implied (h : ∀ c ∈ changes, c.path.normalize ≠ q.normalize)
    (himplied : Implied changes q) : entry? (after changes) q = some .directory := by
  obtain ⟨c, hc, hdirectory⟩ := implied_iff.mp himplied
  have hsome : (changes.findSome? (·.implied q.normal)).isSome :=
    List.findSome?_isSome_iff.mpr ⟨c, hc, by rw [hdirectory]; rfl⟩
  obtain ⟨e, he⟩ := Option.isSome_iff_exists.mp hsome
  -- Whichever change is found first, it implies a directory.
  obtain ⟨c', -, hc'⟩ := List.exists_of_findSome?_eq_some he
  obtain ⟨rfl, -⟩ := StoreChange.implied_eq_some_iff.mp hc'
  rw [entry_of_unnamed h, he]

theorem entry_of_not_implied (h : ∀ c ∈ changes, c.path.normalize ≠ q.normalize)
    (himplied : ¬Implied changes q) : entry? (after changes) q = none := by
  rw [entry_of_unnamed h]
  refine List.findSome?_eq_none_iff.mpr fun c hc => Option.eq_none_iff_forall_not_mem.mpr ?_
  intro e he
  obtain ⟨rfl, -⟩ := StoreChange.implied_eq_some_iff.mp he
  exact himplied (implied_iff.mpr ⟨c, hc, he⟩)

/-! ### Answers -/

/-- There is a directory at this path. -/
def notFile (p : Path) : Fault :=
  .outside ("Is a directory: " ++ Text.quote p.text) []

/-- Whoever asks for the path `q` is answered by this entry. A refusal tells the path as it was
asked for. -/
structure AnswersBy (s : FileStore) (q : Path) (e : Option StoreEntry) : Prop where
  read_eq_ok_iff : ∀ content, s.read q = .ok content ↔ e = some (.file content)
  read_eq_error_iff : ∀ fault, s.read q = .error fault ↔
    e = some .directory ∧ fault = notFile q ∨ e = none ∧ fault = notFound q
  isFile_iff : s.isFile q = true ↔ ∃ content, e = some (.file content)
  canonical_eq_ok_iff : ∀ path, s.canonical q = .ok path ↔ path = q.normalize ∧ e ≠ none
  canonical_eq_error_iff : ∀ fault, s.canonical q = .error fault ↔ e = none ∧ fault = notFound q

theorem answersBy_entry {e : Option StoreEntry} (h : s.entry? q = e) : s.AnswersBy q e := by
  constructor
  all_goals
    simp only [read, isFile, canonical, h]
    rcases e with _ | ⟨content⟩ | _ <;> simp [notFile, eq_comm]

/-- Every spelling of a path has the same entry. -/
theorem entry_congr {q' : Path} (h : q'.normalize = q.normalize) :
    s.entry? q' = s.entry? q := by
  unfold entry?
  rw [Path.normalize_eq_iff.mp h]

end FileStore

/-- **What is in a file store.** After any changes of an empty store and for every path, whose
normal form is `k`:

* if a change names a path with this normal form, there is what the last such change made;
* if none does, there is a directory if `k` is met on the way to the normal form of a file that has
  been added, and nothing otherwise;
* under every spelling, and `k` is one, the path is answered by that entry: it is probed as a file
  exactly if it can be read, and has `k` as its canonical path exactly if there is an entry;
* the canonical path is read, probed and canonicalized as the path itself. -/
theorem entry_by_history (changes : List StoreChange) (q : Path) :
    let s := FileStore.after changes
    let k := q.normalize
    let entry := s.entry? q
    (∀ before c behind, changes = before ++ c :: behind → c.path.normalize = k →
      (∀ c' ∈ behind, c'.path.normalize ≠ k) → entry = some c.made) ∧
    ((∀ c ∈ changes, c.path.normalize ≠ k) →
      (entry = some .directory ↔ FileStore.Implied changes q) ∧
      (entry = none ↔ ¬FileStore.Implied changes q)) ∧
    (∀ q' : Path, q'.normalize = k → s.AnswersBy q' entry) ∧ k.normalize = k ∧
    (s.isFile q = true ↔ ∃ content, s.read q = .ok content) ∧
    (s.canonical q = .ok k ↔ entry ≠ none) ∧
    ∀ path, s.canonical q = .ok path →
      path = k ∧ s.isFile path = s.isFile q ∧ s.canonical path = .ok path ∧
        ∀ content, s.read path = .ok content ↔ s.read q = .ok content := by
  intro s k entry
  have hk : k.normalize = k := Path.normalize_eq_iff.mpr (Path.normal_normalize q)
  have hanswers (q' : Path) (hq' : q'.normalize = k) : s.AnswersBy q' entry :=
    FileStore.answersBy_entry (FileStore.entry_congr hq')
  have hq := hanswers q rfl
  have hkq := hanswers k hk
  refine ⟨fun before c behind => FileStore.entry_of_last, fun hunnamed => ?_, hanswers, hk, ?_, ?_,
    fun path hpath => ?_⟩
  · by_cases himplied : FileStore.Implied changes q
    · have hentry : entry = some .directory := FileStore.entry_of_implied hunnamed himplied
      simp [hentry, himplied]
    · have hentry : entry = none := FileStore.entry_of_not_implied hunnamed himplied
      simp [hentry, himplied]
  · rw [hq.isFile_iff]
    exact exists_congr fun content => (hq.read_eq_ok_iff content).symm
  · rw [hq.canonical_eq_ok_iff]
    exact and_iff_right rfl
  · obtain ⟨rfl, hentry⟩ := (hq.canonical_eq_ok_iff path).mp hpath
    refine ⟨rfl, ?_, (hkq.canonical_eq_ok_iff k).mpr ⟨hk.symm, hentry⟩, fun content => ?_⟩
    · rw [Bool.eq_iff_iff, hkq.isFile_iff, hq.isFile_iff]
    · rw [hkq.read_eq_ok_iff, hq.read_eq_ok_iff]

/-- A file below another file, which stays a file; a later change makes a directory of the one
below. The directory above both is named by none. -/
theorem entry_by_history_overridden :
    let changes : List StoreChange :=
      [.addFile ⟨"/p/api/x.mk"⟩ "one", .addFile ⟨"/p/./api"⟩ "two",
        .addFile ⟨"/p/web//../api/x.mk"⟩ "three", .addDirectory ⟨"/p/api/x.mk/."⟩]
    let s := FileStore.after changes
    s.entry? ⟨"/p/api/x.mk"⟩ = some .directory ∧
      s.entry? ⟨"/p/api/."⟩ = some (.file "two") ∧ s.canonical ⟨"/p/api/."⟩ = .ok ⟨"/p/api"⟩ ∧
      s.isFile ⟨"/p/api"⟩ = s.isFile ⟨"/p/api/."⟩ ∧
      (∀ c ∈ changes, c.path.normalize ≠ ⟨"/p"⟩) ∧ s.entry? ⟨"/p"⟩ = some .directory ∧
      s.read ⟨"/p/../p"⟩ = .error (FileStore.notFile ⟨"/p/../p"⟩) := by
  intro changes s
  obtain ⟨hfile, -⟩ := entry_by_history changes ⟨"/p/api/x.mk"⟩
  obtain ⟨hapi, -, -, -, -, hcanonical, hagain⟩ := entry_by_history changes ⟨"/p/api/."⟩
  obtain ⟨-, hunnamed, hspellings, -⟩ := entry_by_history changes ⟨"/p"⟩
  have hx : s.entry? ⟨"/p/api/x.mk"⟩ = some .directory :=
    hfile [_, _, _] (.addDirectory ⟨"/p/api/x.mk/."⟩) [] rfl (by decide) (by decide)
  have hentry : s.entry? ⟨"/p/api/."⟩ = some (.file "two") :=
    hapi [_] (.addFile ⟨"/p/./api"⟩ "two") [_, _] rfl (by decide) (by decide)
  have hpath : s.canonical ⟨"/p/api/."⟩ = .ok ⟨"/p/api"⟩ :=
    hcanonical.mpr fun hnone => Option.some_ne_none _ (hentry.symm.trans hnone)
  have hnames : ∀ c ∈ changes, c.path.normalize ≠ ⟨"/p"⟩ := by decide
  have himplied : FileStore.Implied changes ⟨"/p"⟩ :=
    ⟨by decide, _, _, List.mem_cons_self, [.name "api", .name "x.mk"], by decide, by decide⟩
  have hp : s.entry? ⟨"/p"⟩ = some .directory := (hunnamed hnames).1.mpr himplied
  obtain ⟨-, hprobe, -⟩ := hagain ⟨"/p/api"⟩ hpath
  exact ⟨hx, hentry, hpath, hprobe, hnames, hp,
    ((hspellings ⟨"/p/../p"⟩ (by decide)).read_eq_error_iff _).mpr (.inl ⟨hp, rfl⟩)⟩

end Ensemble
