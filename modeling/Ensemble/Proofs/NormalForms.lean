import Ensemble.Proofs.Loading

/-!
# Ensemble.Proofs.NormalForms

**Normal forms of paths**, and what they go well with. Nothing more can be taken out of a normal
form, whether it is taken again, a path is joined to it, or its last name is cut off. The main
result puts these laws together; they carry over to file stores, which keep entries by normal form.

What a normal form looks like is said of its text, without segments (`IsTidy`): between the slashes
there is neither `.` nor `..`, no slash follows another, and none is at the end but that of the
root. The tidy paths are those that normalizing leaves alone (`normalize_eq_self_iff`), so the laws
follow from what the normal forms say: of a join from `normal_join`, of a parent from the segments,
which are one less. That the parent of a normal form is spelled as one is read off the pieces that
it is put together from (`parent_toPath`).
-/

namespace Ensemble

namespace Text

/-- There is an empty piece exactly behind two separators in a row, or behind one at the end. -/
theorem nil_mem_cutBetween_iff [DecidableEq α] {sep : α} {xs : List α} :
    [] ∈ (cutBetween sep xs).2 ↔ [sep, sep] <:+: xs ∨ xs.getLast? = some sep := by
  constructor
  · intro h
    obtain ⟨before, behind, hpieces⟩ := List.append_of_mem h
    have hxs := joinBetween_cutBetween sep xs
    rw [joinBetween, hpieces, List.flatMap_append, List.flatMap_cons] at hxs
    generalize (cutBetween sep xs).1 = head at hxs
    subst hxs
    cases behind with
    | nil => exact .inr (by simp)
    | cons piece behind =>
        exact .inl ⟨head ++ before.flatMap (sep :: ·), piece ++ behind.flatMap (sep :: ·), by simp⟩
  · rintro (⟨before, behind, rfl⟩ | hlast)
    · rw [List.append_assoc, List.cons_append, cutBetween_append_cons]
      simp [cutBetween]
    · obtain ⟨front, rfl⟩ := List.getLast?_eq_some_iff.mp hlast
      rw [cutBetween_append_cons]
      simp [cutBetween]

end Text

namespace NormalPath

variable {absolute : Bool} {names : List String} {s : String}

/-! ### The pieces of a normal form -/

theorem toList_intercalate_cons (s : String) (names : List String) :
    ("/".intercalate (s :: names)).toList =
      Text.joinBetween '/' (s.toList, names.map String.toList) := by
  induction names generalizing s with
  | nil => simp [Text.joinBetween]
  | cons t names ih =>
      rw [String.intercalate_cons_cons, String.toList_append, ih]
      simp [Text.joinBetween]

/-- An absolute normal form is put together from its names, with nothing before the first slash. -/
theorem toPath_absolute (names : List String) :
    toPath ⟨true, names⟩ = Path.ofPieces [] (names.map String.toList) := by
  cases names with
  | nil => rfl
  | cons s names =>
      have htext := toList_intercalate_cons s names
      rw [Path.ofPieces, if_neg (by simp), toPath]
      congr 1
      apply String.toList_injective
      simp [htext, Text.joinBetween]

/-- A relative normal form is put together from its names, the first of which is before the first
slash. -/
theorem toPath_relative (hs : Path.IsPlain s) (names : List String) :
    toPath ⟨false, s :: names⟩ = Path.ofPieces s.toList (names.map String.toList) := by
  have htext := toList_intercalate_cons s names
  rw [Path.ofPieces, if_neg (by simp [hs.ne_empty]), toPath]
  congr 1
  apply String.toList_injective
  simp [htext]

theorem no_slash_of_mem_map (h : ∀ name ∈ names, Path.IsPlain name) :
    ∀ piece ∈ names.map String.toList, '/' ∉ piece := by
  intro piece hpiece
  obtain ⟨name, hname, rfl⟩ := List.mem_map.mp hpiece
  exact (h name hname).no_slash

end NormalPath

namespace Path

/-! ### Tidy paths -/

/-- A path that is written without anything that means nothing or takes something back. -/
structure IsTidy (p : Path) : Prop where
  ne_here : ∀ piece ∈ p.pieces.1 :: p.pieces.2, piece ≠ ['.']
  ne_up : ∀ piece ∈ p.pieces.1 :: p.pieces.2, piece ≠ ['.', '.']
  no_double_slash : ¬['/', '/'] <:+: p.text.toList
  no_slash_at_end : p.text ≠ "/" → p.text.toList.getLast? ≠ some '/'

/-- A piece between the slashes is a name unless it is empty, `.` or `..`. -/
theorem isPlain_ofList_iff {piece : List Char} (hslash : '/' ∉ piece) :
    IsPlain (.ofList piece) ↔ piece ≠ [] ∧ piece ≠ ['.'] ∧ piece ≠ ['.', '.'] := by
  constructor
  · rintro ⟨hempty, -, hhere, hup⟩
    refine ⟨?_, ?_, ?_⟩ <;> rintro rfl
    exacts [hempty rfl, hhere rfl, hup rfl]
  · rintro ⟨hempty, hhere, hup⟩
    refine ⟨by simpa using hempty, by simpa using hslash, fun h => hhere ?_, fun h => hup ?_⟩ <;>
      simpa using congrArg String.toList h

/-- The pieces of a tidy path are names, but for an empty one before the first slash, and but for
the root. -/
theorem isTidy_iff {p : Path} :
    p.IsTidy ↔ p.text = "/" ∨ (p.pieces.1 = [] ∨ IsPlain (.ofList p.pieces.1)) ∧
      ∀ piece ∈ p.pieces.2, IsPlain (.ofList piece) := by
  have hslash : ∀ piece ∈ p.pieces.1 :: p.pieces.2, '/' ∉ piece := fun piece hpiece =>
    Text.not_mem_of_mem_cutBetween (List.mem_cons.mp hpiece)
  -- What is asked of the slashes is that no piece behind one is empty.
  have hempty : [] ∈ p.pieces.2 ↔ ['/', '/'] <:+: p.text.toList ∨
      p.text.toList.getLast? = some '/' := Text.nil_mem_cutBetween_iff
  obtain ⟨hhead, htail⟩ := List.forall_mem_cons.mp hslash
  constructor
  · rintro ⟨hhere, hup, hdouble, hend⟩
    obtain ⟨hhere, hheres⟩ := List.forall_mem_cons.mp hhere
    obtain ⟨hup, hups⟩ := List.forall_mem_cons.mp hup
    refine or_iff_not_imp_left.mpr fun hroot => ⟨or_iff_not_imp_left.mpr fun hne => ?_, ?_⟩
    · exact (isPlain_ofList_iff hhead).mpr ⟨hne, hhere, hup⟩
    · intro piece hpiece
      refine (isPlain_ofList_iff (htail piece hpiece)).mpr ⟨?_, hheres piece hpiece,
        hups piece hpiece⟩
      rintro rfl
      exact (hempty.mp hpiece).elim hdouble (hend hroot)
  · rintro (hroot | ⟨hfirst, hplain⟩)
    · obtain ⟨text⟩ := p
      obtain rfl : text = "/" := hroot
      exact ⟨by decide, by decide, by decide, fun h => absurd rfl h⟩
    · have hnames : ∀ piece ∈ p.pieces.2, piece ≠ [] ∧ piece ≠ ['.'] ∧ piece ≠ ['.', '.'] :=
        fun piece hpiece => (isPlain_ofList_iff (htail piece hpiece)).mp (hplain piece hpiece)
      have hname : p.pieces.1 ≠ ['.'] ∧ p.pieces.1 ≠ ['.', '.'] := by
        rcases hfirst with hnone | hname
        · simp [hnone]
        · exact ((isPlain_ofList_iff hhead).mp hname).2
      have hnone : [] ∉ p.pieces.2 := fun h => (hnames [] h).1 rfl
      obtain ⟨hdouble, hend⟩ := not_or.mp (mt hempty.mpr hnone)
      exact ⟨List.forall_mem_cons.mpr ⟨hname.1, fun piece hpiece => (hnames piece hpiece).2.1⟩,
        List.forall_mem_cons.mpr ⟨hname.2, fun piece hpiece => (hnames piece hpiece).2.2⟩,
        hdouble, fun _ => hend⟩

/-- A path is put together from its pieces. -/
theorem ofPieces_pieces {p : Path} (h : ¬(p.pieces.1 = [] ∧ p.pieces.2 = [])) :
    ofPieces p.pieces.1 p.pieces.2 = p := by
  obtain ⟨text⟩ := p
  rw [ofPieces, if_neg h]
  congr 1
  apply String.toList_injective
  rw [String.toList_ofList]
  exact Text.joinBetween_cutBetween '/' text.toList

theorem isTidy_ofPieces {head : List Char} {names : List String}
    (hhead : head = [] ∨ IsPlain (.ofList head)) (hnames : ∀ name ∈ names, IsPlain name) :
    (ofPieces head (names.map String.toList)).IsTidy := by
  rw [isTidy_iff]
  by_cases hroot : head = [] ∧ names.map String.toList = []
  · rw [ofPieces, if_pos hroot]
    exact .inl rfl
  · have hslash : '/' ∉ head := by
      rcases hhead with rfl | hplain
      · simp
      · simpa using hplain.no_slash
    rw [pieces_ofPieces hslash (NormalPath.no_slash_of_mem_map hnames) hroot]
    refine .inr ⟨hhead, fun piece hpiece => ?_⟩
    obtain ⟨name, hname, rfl⟩ := List.mem_map.mp hpiece
    rw [String.ofList_toList]
    exact hnames name hname

/-- What is spelled with plain names is tidy. -/
theorem isTidy_toPath {n : NormalPath} (h : ∀ name ∈ n.names, IsPlain name) : n.toPath.IsTidy := by
  obtain ⟨absolute, names⟩ := n
  cases absolute with
  | true =>
      rw [NormalPath.toPath_absolute]
      exact isTidy_ofPieces (.inl rfl) h
  | false =>
      cases names with
      | nil => exact isTidy_iff.mpr (.inr ⟨.inl rfl, nofun⟩)
      | cons s names =>
          obtain ⟨hs, hnames⟩ := List.forall_mem_cons.mp h
          rw [NormalPath.toPath_relative hs]
          exact isTidy_ofPieces (.inr (by rwa [String.ofList_toList])) hnames

/-- What is tidy is spelled with plain names. -/
theorem IsTidy.exists_toPath {p : Path} (h : p.IsTidy) :
    ∃ n : NormalPath, (∀ name ∈ n.names, IsPlain name) ∧ n.toPath = p := by
  rcases isTidy_iff.mp h with hroot | ⟨hhead, htail⟩
  · exact ⟨⟨true, []⟩, nofun, congrArg Path.mk hroot.symm⟩
  · by_cases hnone : p.pieces.1 = [] ∧ p.pieces.2 = []
    · have hpieces : Text.cutBetween '/' p.text.toList = ([], []) := Prod.ext hnone.1 hnone.2
      have htext := Text.joinBetween_cutBetween '/' p.text.toList
      rw [hpieces] at htext
      exact ⟨⟨false, []⟩, nofun, congrArg Path.mk (String.toList_injective htext)⟩
    · have hnames : ∀ name ∈ p.pieces.2.map String.ofList, IsPlain name := by
        intro name hname
        obtain ⟨piece, hpiece, rfl⟩ := List.mem_map.mp hname
        exact htail piece hpiece
      have hpieces : (p.pieces.2.map String.ofList).map String.toList = p.pieces.2 := by
        simp [Function.comp_def]
      rcases hhead with hempty | hplain
      · refine ⟨⟨true, p.pieces.2.map .ofList⟩, hnames, ?_⟩
        rw [NormalPath.toPath_absolute, hpieces, ← hempty, ofPieces_pieces hnone]
      · refine ⟨⟨false, .ofList p.pieces.1 :: p.pieces.2.map .ofList⟩,
          List.forall_mem_cons.mpr ⟨hplain, hnames⟩, ?_⟩
        rw [NormalPath.toPath_relative hplain, hpieces, String.toList_ofList, ofPieces_pieces hnone]

/-- **A path is its own normal form exactly if it is tidy.** -/
theorem normalize_eq_self_iff {p : Path} : p.normalize = p ↔ p.IsTidy := by
  constructor
  · intro h
    rw [← h]
    exact isTidy_toPath fun _ => isPlain_of_mem_normal
  · intro h
    obtain ⟨n, hn, rfl⟩ := h.exists_toPath
    rw [normalize, NormalPath.normal_toPath hn]

/-! ### Absolute paths -/

theorem pieceSegment_ne_root (piece : List Char) : pieceSegment piece ≠ .root := by
  unfold pieceSegment
  split
  · simp
  · split <;> simp

/-- The root is met on an absolute path, and on no other. -/
theorem root_mem_segments_iff {p : Path} : .root ∈ p.segments ↔ p.isAbsolute = true := by
  constructor
  · intro h
    by_contra habsolute
    rw [segments_eq, lead, if_neg habsolute] at h
    rcases List.mem_append.mp h with hlead | hmeant
    · split at hlead
      · cases hlead
      · exact pieceSegment_ne_root _ (List.mem_singleton.mp hlead).symm
    · obtain ⟨piece, -, hroot⟩ := List.mem_map.mp hmeant
      exact pieceSegment_ne_root piece hroot
  · intro h
    obtain ⟨segments, hsegments⟩ := head?_segments h
    rw [hsegments]
    exact List.mem_cons_self

/-- A way along segments is absolute if it begins so, or meets the root. -/
theorem absolute_foldl_push (segments : List Segment) (n : NormalPath) :
    (segments.foldl .push n).absolute = true ↔ n.absolute = true ∨ .root ∈ segments := by
  induction segments generalizing n with
  | nil => simp
  | cons segment segments ih =>
      rw [List.foldl_cons, ih, List.mem_cons, ← or_assoc]
      cases segment <;> simp [NormalPath.push]

theorem absolute_normal (p : Path) : p.normal.absolute = p.isAbsolute := by
  rw [Bool.eq_iff_iff, normal, absolute_foldl_push, ← root_mem_segments_iff]
  exact or_iff_right Bool.false_ne_true

theorem isAbsolute_normalize (p : Path) : p.normalize.isAbsolute = p.isAbsolute := by
  rw [← absolute_normal, ← absolute_normal, normal_normalize]

/-! ### Parents -/

theorem IsPlain.isIdle_eq {s : String} (h : IsPlain s) : isIdle s.toList = false := by
  have hempty : s.toList ≠ [] := by simpa using h.ne_empty
  have hhere : s.toList ≠ ['.'] := fun heq => h.ne_here (String.toList_injective heq)
  simp [isIdle, hempty, hhere]

/-- The parent of pieces that do not end in an idle one is put together from the others. -/
theorem parent_ofPieces {head last : List Char} {front : List (List Char)} (hhead : '/' ∉ head)
    (htail : ∀ piece ∈ front ++ [last], '/' ∉ piece) (hlast : isIdle last = false) :
    (ofPieces head (front ++ [last])).parent = some (ofPieces head (dropIdle front)) := by
  have hpieces := pieces_ofPieces hhead htail (by simp)
  have hkept : dropIdle (front ++ [last]) = front ++ [last] := by
    rw [dropIdle_append_singleton, hlast]
    rfl
  unfold parent
  rw [hpieces]
  dsimp only
  rw [hkept]
  split
  · rename_i hnone
    exact absurd hnone (by simp)
  · rename_i piece pieces hcons
    rw [← hcons, List.dropLast_concat]

theorem dropIdle_names {names : List String} (h : ∀ name ∈ names, IsPlain name) :
    dropIdle (names.map String.toList) = names.map String.toList := by
  induction names using List.reverseRecOn with
  | nil => rfl
  | append_singleton names s ih =>
      rw [List.map_append, List.map_singleton, dropIdle_append_singleton, (h s (by simp)).isIdle_eq]
      rfl

/-- **The parent of a normal form** has all its names but the last. -/
theorem parent_toPath {absolute : Bool} {names : List String} {s : String}
    (hnames : ∀ name ∈ names, IsPlain name) (hs : IsPlain s) :
    (NormalPath.toPath ⟨absolute, names ++ [s]⟩).parent =
      some (NormalPath.toPath ⟨absolute, names⟩) := by
  have hslash {names : List String} (hnames : ∀ name ∈ names, IsPlain name) :
      ∀ piece ∈ names.map String.toList ++ [s.toList], '/' ∉ piece := by
    have hall : ∀ name ∈ names ++ [s], IsPlain name :=
      List.forall_mem_append.mpr ⟨hnames, List.forall_mem_singleton.mpr hs⟩
    simpa only [List.map_append, List.map_singleton] using NormalPath.no_slash_of_mem_map hall
  cases absolute with
  | true =>
      rw [NormalPath.toPath_absolute, NormalPath.toPath_absolute, List.map_append,
        List.map_singleton, parent_ofPieces List.not_mem_nil (hslash hnames) hs.isIdle_eq,
        dropIdle_names hnames]
  | false =>
      cases names with
      | nil =>
          -- Without a slash nothing is left of the pieces, and the parent is the empty path.
          have hpieces : (ofPieces s.toList []).pieces = (s.toList, []) :=
            pieces_ofPieces hs.no_slash nofun (by simp [hs.ne_empty])
          rw [List.nil_append, NormalPath.toPath_relative hs, parent, List.map_nil, hpieces]
          simp [dropIdle, hs.ne_empty, NormalPath.toPath]
      | cons t names =>
          obtain ⟨ht, hnames⟩ := List.forall_mem_cons.mp hnames
          rw [List.cons_append, NormalPath.toPath_relative ht, NormalPath.toPath_relative ht,
            List.map_append, List.map_singleton,
            parent_ofPieces ht.no_slash (hslash hnames) hs.isIdle_eq, dropIdle_names hnames]

/-- A directory is at the place of the parent, also where `.` stands for the empty path. -/
theorem normal_directory_of_parent {p q : Path} (h : p.parent = some q) :
    p.directory.normal = q.normal := by
  unfold directory
  rw [h]
  split
  · rename_i hempty
    obtain rfl := Option.some.inj hempty
    rfl
  · rename_i hdir
    obtain rfl := Option.some.inj hdir
    rfl
  · rename_i hnone
    cases hnone

/-! ### Files -/

section File

variable {p : Path} {file : String} (h : p.fileName = some file)

include h

/-- A path that ends in a name has a parent, and its normal form ends in this name behind that of
the parent. -/
theorem exists_parent_of_fileName :
    ∃ q, p.parent = some q ∧ p.normal = ⟨q.normal.absolute, q.normal.names ++ [file]⟩ := by
  obtain ⟨front, hfront⟩ := List.getLast?_eq_some_iff.mp (fileName_eq_some_iff.mp h)
  cases hparent : p.parent with
  | none =>
      rcases segments_of_parent_eq_none hparent with hnone | hroot
      · simp [hnone] at hfront
      · exact absurd (congrArg List.getLast? (hfront.symm.trans hroot)) (by simp)
  | some q =>
      have hq := segments_parent hparent
      rw [hfront, List.dropLast_concat] at hq
      refine ⟨q, rfl, ?_⟩
      rw [normal, hfront, List.foldl_append, normal, hq]
      rfl

/-- The parent of the normal form is the normal form of the parent. -/
theorem parent_normalize : ∃ q, p.parent = some q ∧ p.normalize.parent = some q.normalize := by
  obtain ⟨q, hq, hnormal⟩ := exists_parent_of_fileName h
  refine ⟨q, hq, ?_⟩
  rw [normalize, hnormal]
  exact parent_toPath (fun _ => isPlain_of_mem_normal) (isPlain_of_fileName h)

/-- The normal form ends in the same name. -/
theorem fileName_normalize : p.normalize.fileName = some file := by
  obtain ⟨q, -, hnormal⟩ := exists_parent_of_fileName h
  rw [fileName_eq_some_iff, segments_normalize, hnormal, List.map_append, ← List.append_assoc]
  exact List.getLast?_concat

/-- Its directory is at the same place. -/
theorem normal_directory_normalize : p.normalize.directory.normal = p.directory.normal := by
  obtain ⟨q, hq, hnormalize⟩ := parent_normalize h
  rw [normal_directory_of_parent hq, normal_directory_of_parent hnormalize, normal_normalize]

end File

/-- A join is at the same place, however its base is spelled. -/
theorem normal_join_congr {base base' : Path} (h : base'.normal = base.normal) (p : Path) :
    (base'.join p).normal = (base.join p).normal := by
  rw [normal_join, normal_join, h]

end Path

/-- An include is at the same place, seen from wherever the normal form is the same. -/
theorem FileStore.entry_resolve_congr {base base' : Path} (h : base'.normal = base.normal)
    (s : FileStore) (i : Include) : s.entry? (i.resolve base') = s.entry? (i.resolve base) :=
  congrArg s.lookup (Path.normal_join_congr h i.path)

/-- **Normalizing goes well with itself, with joins and with parents.** For every path `a`, whose
normal form is spelled `n`:

* `n` is its own normal form and tidy, a path that is tidy already is left alone, and `n` is
  absolute exactly if `a` is;
* a path that is joined to `n` leads to where it leads from `a`; an absolute one replaces both;
* if the last segment of `a` is a name, so is the last one of `n`, and the parent of `n` is the
  normal form of the parent of `a`. So an include leads to the same entry of a store, whether it is
  seen from the directory of `a` or from that of `n`, which is the one of a descriptor that is
  loaded from `a`. -/
theorem normalize_composes (a b : Path) :
    let n := a.normalize
    (n.normalize = n ∧ n.IsTidy ∧ (a.IsTidy → n = a) ∧ n.isAbsolute = a.isAbsolute) ∧
    ((a.join b).normalize = (n.join b).normalize ∧
      (b.isAbsolute = true → a.join b = b ∧ n.join b = b)) ∧
    ∀ name, a.segments.getLast? = some (.name name) →
      n.segments.getLast? = some (.name name) ∧
      (∃ parent, a.parent = some parent ∧ n.parent = some parent.normalize) ∧
      ∀ (s : FileStore) (i : Include),
        s.entry? (i.resolve n.directory) = s.entry? (i.resolve a.directory) ∧
        ∀ d, Descriptor.load s.view a = .ok d →
          s.entry? (i.resolve d.baseDir) = s.entry? (i.resolve a.directory) := by
  intro n
  have hn : n.normal = a.normal := Path.normal_normalize a
  have hsame : n.normalize = n := Path.normalize_eq_iff.mpr hn
  refine ⟨⟨hsame, Path.normalize_eq_self_iff.mp hsame, Path.normalize_eq_self_iff.mpr,
    Path.isAbsolute_normalize a⟩, ⟨?_, fun h => ⟨?_, ?_⟩⟩, fun name hname => ?_⟩
  · exact Path.normalize_eq_iff.mpr (Path.normal_join_congr hn.symm b)
  · exact Path.join_of_isAbsolute h
  · exact Path.join_of_isAbsolute h
  · have hfile := Path.fileName_eq_some_iff.mpr hname
    have hdirectory := Path.normal_directory_normalize hfile
    refine ⟨Path.fileName_eq_some_iff.mp (Path.fileName_normalize hfile),
      Path.parent_normalize hfile, fun s i => ⟨?_, fun d hd => ?_⟩⟩
    · exact FileStore.entry_resolve_congr hdirectory s i
    · obtain ⟨directives, -, rfl⟩ := FileStore.load_eq_ok_iff.mp hd
      exact FileStore.entry_resolve_congr hdirectory s i

/-- A roundabout path of a root file whose include leaves its directory. The include is found as
from the normal form, and the normal form is left alone. -/
theorem normalize_composes_roundabout :
    let a : Path := ⟨"/p/./web//../main.mk/."⟩
    let n : Path := ⟨"/p/main.mk"⟩
    let b : Path := ⟨"//lib"⟩
    let i : Include := ⟨⟨"../api/x.mk"⟩, none⟩
    let d : Descriptor := ⟨[], [i], [], n⟩
    let files := (({} : FileStore).addFile n "include ../api/x.mk\n").addFile ⟨"/api/x.mk"⟩ "x"
    a.normalize = n ∧ n.IsTidy ∧ n.normalize = n ∧ b.isAbsolute = true ∧ a.join b = b ∧
      a.segments.getLast? = some (.name "main.mk") ∧ a.parent = some ⟨"/p/./web//.."⟩ ∧
      n.parent = some (Path.normalize ⟨"/p/./web//.."⟩) ∧
      Descriptor.load files.view a = .ok d ∧
      files.entry? (i.resolve a.directory) = some (.file "x") := by
  intro a n b i d files
  have ha : a.normalize = n := by decide
  have hb : b.isAbsolute = true := by decide
  have hname : a.segments.getLast? = some (.name "main.mk") := by decide
  have hup : a.parent = some ⟨"/p/./web//.."⟩ := by decide
  have hload : Descriptor.load files.view a = .ok d := by decide
  have hentry : files.entry? (i.resolve d.baseDir) = some (.file "x") := by decide
  obtain ⟨⟨-, htidy, -, -⟩, ⟨-, habsolute⟩, hfile⟩ := normalize_composes a b
  obtain ⟨-, ⟨parent, hparent, hnormal⟩, hseen⟩ := hfile "main.mk" hname
  obtain ⟨⟨-, -, halone, -⟩, -⟩ := normalize_composes n b
  obtain rfl : ⟨"/p/./web//.."⟩ = parent := Option.some.inj (hup.symm.trans hparent)
  rw [ha] at htidy hnormal
  obtain ⟨-, hloaded⟩ := hseen files i
  exact ⟨ha, htidy, halone htidy, hb, (habsolute hb).1, hname, hparent, hnormal, hload,
    (hloaded d hload).symm.trans hentry⟩

end Ensemble
