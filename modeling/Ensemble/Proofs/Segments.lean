import Mathlib.Data.List.Infix
import Mathlib.Data.List.TakeWhile
import Ensemble.Path

/-!
# Ensemble.Proofs.Segments

**What paths mean**, put together from what their parts mean. A path is a text, and what it means is
a list of segments; here the operations on texts are followed on the segments. Behind a slash a part
means the same wherever it stands (`segments_slash`), so joining appends segments (`segments_join`),
and the normal form of a join goes on from that of its base (`normal_join`). A parent has all
segments but the last (`segments_parent`), so a file is found again behind its directory
(`normal_directory_join`).

The names among the segments are plain (`IsPlain`): not empty, without a slash, and neither `.` nor
`..`. A plain text is itself one segment, so a name that is taken from one path can be put behind
another. For the same reason a normal form is read from its own spelling (`normal_toPath`), so there
is one spelling for each (`normalize_eq_iff`). What is left of a plain name without its extension
may be none: a stem can be `.` or `..`.
-/

namespace Ensemble

namespace Text

/-- A cut goes through a sequence that is put together around a separator. -/
theorem cutBetween_append_cons [DecidableEq α] (sep : α) (xs ys : List α) :
    cutBetween sep (xs ++ sep :: ys) =
      ((cutBetween sep xs).1,
        (cutBetween sep xs).2 ++ (cutBetween sep ys).1 :: (cutBetween sep ys).2) := by
  induction xs with
  | nil => simp [cutBetween]
  | cons x xs ih =>
      simp only [List.cons_append, cutBetween, ih]
      split <;> rfl

/-- What holds no separator is one piece. -/
theorem cutBetween_of_not_mem [DecidableEq α] {sep : α} {xs : List α} (h : sep ∉ xs) :
    cutBetween sep xs = (xs, []) := by
  induction xs with
  | nil => rfl
  | cons x xs ih =>
      rw [List.mem_cons, not_or] at h
      rw [cutBetween, ih h.2]
      exact if_neg (Ne.symm h.1)

/-- Pieces without separators are found again where they were joined. -/
theorem cutBetween_joinBetween [DecidableEq α] {sep : α} {head : List α} {tail : List (List α)}
    (hhead : sep ∉ head) (htail : ∀ piece ∈ tail, sep ∉ piece) :
    cutBetween sep (joinBetween sep (head, tail)) = (head, tail) := by
  induction tail generalizing head with
  | nil => simp [joinBetween, cutBetween_of_not_mem hhead]
  | cons piece tail ih =>
      obtain ⟨hpiece, htail⟩ := List.forall_mem_cons.mp htail
      have hjoin : joinBetween sep (head, piece :: tail) =
          head ++ sep :: joinBetween sep (piece, tail) := by simp [joinBetween]
      rw [hjoin, cutBetween_append_cons, cutBetween_of_not_mem hhead, ih hpiece htail]
      rfl

end Text

namespace Path

/-! ### Behind a slash -/

/-- What the piece before the first slash means. -/
def lead (p : Path) : List Segment :=
  if p.isAbsolute then [.root]
  else if p.pieces.1 = [] then []
  else [pieceSegment p.pieces.1]

/-- What pieces mean that stand behind a slash. -/
def meant (pieces : List (List Char)) : List Segment :=
  (pieces.filter (!isIdle ·)).map pieceSegment

theorem segments_eq (p : Path) : p.segments = p.lead ++ meant p.pieces.2 := rfl

/-- Nothing is meant between two slashes. -/
theorem meant_empty : meant [[]] = [] := rfl

@[simp] theorem meant_append (xs ys : List (List Char)) :
    meant (xs ++ ys) = meant xs ++ meant ys := by
  simp [meant]

theorem meant_cons (piece : List Char) (pieces : List (List Char)) :
    meant (piece :: pieces) =
      (if isIdle piece then [] else [pieceSegment piece]) ++ meant pieces := by
  cases h : isIdle piece <;> simp [meant, h]

/-- A leading `.` is meant only at the beginning of a path. -/
theorem here_not_mem_meant (pieces : List (List Char)) : Segment.here ∉ meant pieces := by
  intro h
  obtain ⟨piece, hpiece, hhere⟩ := List.mem_map.mp h
  have hdot : piece = ['.'] := by
    unfold pieceSegment at hhere
    split at hhere
    · assumption
    · split at hhere <;> cases hhere
  rw [hdot] at hpiece
  simp [isIdle] at hpiece

/-- Behind a slash a relative path means what it means by itself, but for a leading `.`. -/
theorem meant_pieces {p : Path} (h : p.isAbsolute = false) :
    meant (p.pieces.1 :: p.pieces.2) = p.segments.filter (· ≠ .here) := by
  have hrest : (meant p.pieces.2).filter (· ≠ .here) = meant p.pieces.2 :=
    List.filter_eq_self.mpr fun s hs => by
      simpa using fun hhere : s = .here => here_not_mem_meant p.pieces.2 (hhere ▸ hs)
  rw [meant_cons, segments_eq, List.filter_append, hrest, lead, h]
  congr 1
  by_cases hempty : p.pieces.1 = []
  · simp [hempty, isIdle]
  · by_cases hdot : p.pieces.1 = ['.']
    · simp [hdot, isIdle, pieceSegment]
    · have hidle : isIdle p.pieces.1 = false := by simp [isIdle, hempty, hdot]
      have hmeant : pieceSegment p.pieces.1 ≠ .here := by
        unfold pieceSegment
        rw [if_neg hdot]
        split <;> simp
      simp [hempty, hidle, hmeant]

theorem pieces_slash (b t : String) :
    pieces ⟨b ++ "/" ++ t⟩ =
      ((pieces ⟨b⟩).1, (pieces ⟨b⟩).2 ++ (pieces ⟨t⟩).1 :: (pieces ⟨t⟩).2) := by
  have htext : (b ++ "/" ++ t).toList = b.toList ++ '/' :: t.toList := by simp
  rw [pieces, htext, Text.cutBetween_append_cons]
  rfl

/-- A slash at the end has an empty piece behind it. -/
theorem pieces_append_slash (b : String) :
    pieces ⟨b ++ "/"⟩ = ((pieces ⟨b⟩).1, (pieces ⟨b⟩).2 ++ [[]]) := by
  have h := pieces_slash b ""
  rwa [String.append_empty] at h

/-- What stands behind a slash does not change what stands before it. -/
theorem segments_slash (b : String) (p : Path) :
    segments ⟨b ++ "/" ++ p.text⟩ =
      segments ⟨b ++ "/"⟩ ++ meant (p.pieces.1 :: p.pieces.2) := by
  have habsolute : isAbsolute ⟨b ++ "/" ++ p.text⟩ = isAbsolute ⟨b ++ "/"⟩ := by
    simp [isAbsolute]
  have hlead : lead ⟨b ++ "/" ++ p.text⟩ = lead ⟨b ++ "/"⟩ := by
    rw [lead, lead, habsolute, pieces_slash, pieces_append_slash]
  rw [segments_eq, segments_eq, hlead, pieces_slash, pieces_append_slash, meant_append,
    meant_append, meant_empty, List.append_nil, List.append_assoc]

/-- A slash at the end means nothing, but for the root. -/
theorem segments_append_slash {b : String} (h : b ≠ "") :
    segments ⟨b ++ "/"⟩ = segments ⟨b⟩ := by
  have habsolute : isAbsolute ⟨b ++ "/"⟩ = isAbsolute ⟨b⟩ := by
    obtain ⟨c, cs, hcs⟩ := List.exists_cons_of_ne_nil (l := b.toList) (by simpa using h)
    simp [isAbsolute, hcs]
  rw [segments_eq, segments_eq, lead, lead, habsolute, pieces_append_slash, meant_append,
    meant_empty, List.append_nil]

/-! ### Joining -/

/-- **Joining appends segments**: a relative path behind any base but the empty one. -/
theorem segments_join {base p : Path} (hbase : base.text ≠ "") (hp : p.isAbsolute = false) :
    (base.join p).segments = base.segments ++ p.segments.filter (· ≠ .here) := by
  rw [join, if_neg (by simp [hp]), ← meant_pieces hp]
  by_cases hslash : base.text.toList.getLast? = some '/'
  · rw [if_pos (.inr hslash)]
    -- The base ends with the slash that `p` stands behind.
    obtain ⟨front, hfront⟩ := List.getLast?_eq_some_iff.mp hslash
    obtain ⟨text⟩ := base
    obtain rfl : text = .ofList front ++ "/" := String.toList_injective (by simpa using hfront)
    exact segments_slash _ p
  · rw [if_neg (not_or.mpr ⟨hbase, hslash⟩), segments_slash, segments_append_slash hbase]

example : (join ⟨"/a/"⟩ ⟨"./b//c"⟩).segments = [.root, .name "a", .name "b", .name "c"] := by decide

/-- A `.` goes on to nowhere. -/
theorem foldl_push_filter (segments : List Segment) (n : NormalPath) :
    (segments.filter (· ≠ .here)).foldl .push n = segments.foldl .push n := by
  induction segments generalizing n with
  | nil => rfl
  | cons s segments ih =>
      by_cases h : s = .here
      · rw [List.filter_cons_of_neg (by simpa using h), ih, List.foldl_cons, h]
        rfl
      · rw [List.filter_cons_of_pos (by simpa using h), List.foldl_cons, List.foldl_cons, ih]

/-- An absolute path begins at the root. -/
theorem head?_segments {p : Path} (h : p.isAbsolute = true) :
    ∃ segments, p.segments = .root :: segments :=
  ⟨meant p.pieces.2, by rw [segments_eq, lead, if_pos h]; rfl⟩

/-- **The normal form of a join** is reached from that of the base by the segments of what is
joined. -/
theorem normal_join (base p : Path) :
    (base.join p).normal = p.segments.foldl .push base.normal := by
  by_cases hp : p.isAbsolute = true
  · -- The root forgets the base.
    obtain ⟨segments, hsegments⟩ := head?_segments hp
    rw [join_of_isAbsolute hp, normal, hsegments]
    rfl
  · rw [Bool.not_eq_true] at hp
    by_cases hbase : base.text = ""
    · obtain ⟨text⟩ := base
      obtain rfl : text = "" := hbase
      rw [join, if_neg (by simp [hp]), if_pos (.inl rfl), String.empty_append]
      rfl
    · rw [normal, segments_join hbase hp, List.foldl_append, foldl_push_filter]
      rfl

/-! ### Plain names -/

/-- A text that is one segment, and that a name. -/
structure IsPlain (s : String) : Prop where
  ne_empty : s ≠ ""
  no_slash : '/' ∉ s.toList
  ne_here : s ≠ "."
  ne_up : s ≠ ".."

/-- The piece of a name is plain. -/
theorem isPlain_of_pieceSegment {piece : List Char} {s : String} (hne : piece ≠ [])
    (hslash : '/' ∉ piece) (h : pieceSegment piece = .name s) : IsPlain s := by
  unfold pieceSegment at h
  split at h
  · cases h
  · rename_i hhere
    split at h
    · cases h
    · rename_i hup
      obtain rfl := Segment.name.inj h
      refine ⟨?_, by simpa using hslash, ?_, ?_⟩
      · simpa using hne
      · exact fun heq => hhere (by simpa using congrArg String.toList heq)
      · exact fun heq => hup (by simpa using congrArg String.toList heq)

/-- Names among the segments of a path are plain. -/
theorem isPlain_of_mem_segments {p : Path} {s : String} (h : .name s ∈ p.segments) : IsPlain s := by
  rw [segments_eq] at h
  rcases List.mem_append.mp h with hlead | hrest
  · unfold lead at hlead
    split at hlead
    · simp at hlead
    · split at hlead
      · cases hlead
      · rename_i hne
        exact isPlain_of_pieceSegment hne (Text.not_mem_of_mem_cutBetween (.inl rfl))
          (List.mem_singleton.mp hlead).symm
  · obtain ⟨piece, hpiece, hname⟩ := List.mem_map.mp hrest
    obtain ⟨hmem, hidle⟩ := List.mem_filter.mp hpiece
    have hne : piece ≠ [] := by
      rintro rfl
      simp [isIdle] at hidle
    exact isPlain_of_pieceSegment hne (Text.not_mem_of_mem_cutBetween (.inr hmem)) hname

/-- A file name is plain. -/
theorem isPlain_of_fileName {p : Path} {file : String} (h : p.fileName = some file) :
    IsPlain file := by
  unfold fileName at h
  split at h
  · rename_i s hlast
    obtain rfl := Option.some.inj h
    exact isPlain_of_mem_segments (List.mem_of_getLast? hlast)
  · cases h

/-- A plain text is a relative path. -/
theorem IsPlain.isAbsolute_eq {s : String} (h : IsPlain s) : isAbsolute ⟨s⟩ = false := by
  have hhead : s.toList.head? ≠ some '/' := fun hhead => h.no_slash (List.mem_of_head? hhead)
  simpa [isAbsolute] using hhead

/-- A plain text is one segment. -/
theorem IsPlain.segments_eq {s : String} (h : IsPlain s) : segments ⟨s⟩ = [.name s] := by
  have hpieces : pieces ⟨s⟩ = (s.toList, []) := Text.cutBetween_of_not_mem h.no_slash
  have hempty : s.toList ≠ [] := by simpa using h.ne_empty
  have hhere : s.toList ≠ ['.'] := fun heq => h.ne_here (String.toList_injective heq)
  have hup : s.toList ≠ ['.', '.'] := fun heq => h.ne_up (String.toList_injective heq)
  rw [Path.segments_eq, lead, h.isAbsolute_eq, hpieces]
  simp [hempty, pieceSegment, hhere, hup, meant]

/-- A plain text that is joined is one segment more. -/
theorem IsPlain.segments_join {s : String} (h : IsPlain s) (base : Path) :
    (base.join ⟨s⟩).segments = base.segments ++ [.name s] := by
  by_cases hbase : base.text = ""
  · obtain ⟨text⟩ := base
    obtain rfl : text = "" := hbase
    rw [join, if_neg (by simp [h.isAbsolute_eq]), if_pos (.inl rfl), String.empty_append,
      h.segments_eq]
    rfl
  · rw [Path.segments_join hbase h.isAbsolute_eq, h.segments_eq]
    rfl

/-! ### Parents -/

/-- A path is absolute if it has a slash and nothing stands before the first. -/
theorem isAbsolute_iff {p : Path} : p.isAbsolute = true ↔ p.pieces.1 = [] ∧ p.pieces.2 ≠ [] := by
  unfold isAbsolute pieces
  cases p.text.toList with
  | nil => simp [Text.cutBetween]
  | cons c cs =>
      by_cases hc : c = '/' <;> simp [Text.cutBetween, hc]

/-- What the piece before the first slash means, read off the pieces. -/
theorem lead_eq (p : Path) :
    p.lead = if p.pieces.1 = [] then if p.pieces.2 = [] then [] else [.root]
      else [pieceSegment p.pieces.1] := by
  have habsolute := isAbsolute_iff (p := p)
  unfold lead
  by_cases hhead : p.pieces.1 = [] <;> by_cases htail : p.pieces.2 = [] <;> simp_all

theorem dropIdle_append_singleton (tail : List (List Char)) (piece : List Char) :
    dropIdle (tail ++ [piece]) = if isIdle piece then dropIdle tail else tail ++ [piece] := by
  rw [dropIdle, dropIdle, List.reverse_append, List.reverse_singleton, List.singleton_append,
    List.dropWhile_cons]
  split <;> simp

/-- Idle pieces at the end mean nothing. -/
theorem meant_dropIdle (tail : List (List Char)) : meant (dropIdle tail) = meant tail := by
  induction tail using List.reverseRecOn with
  | nil => rfl
  | append_singleton tail piece ih =>
      rw [dropIdle_append_singleton]
      split <;> rename_i hidle
      · rw [ih, meant_append, meant_cons, if_pos hidle]
        exact (List.append_nil _).symm
      · rfl

theorem mem_of_mem_dropIdle {tail : List (List Char)} {piece : List Char}
    (h : piece ∈ dropIdle tail) : piece ∈ tail := by
  have hmem := (List.dropWhile_sublist isIdle).mem (List.mem_reverse.mp h)
  exact List.mem_reverse.mp hmem

/-- What is left without the idle pieces at the end does not end in an idle piece. -/
theorem exists_of_dropIdle_ne_nil {tail : List (List Char)} (h : dropIdle tail ≠ []) :
    ∃ front last, isIdle last = false ∧ dropIdle tail = front ++ [last] := by
  induction tail using List.reverseRecOn with
  | nil => exact absurd rfl h
  | append_singleton tail piece ih =>
      rw [dropIdle_append_singleton] at h ⊢
      split <;> rename_i hidle
      · rw [if_pos hidle] at h
        exact ih h
      · exact ⟨tail, piece, by simpa using hidle, rfl⟩

/-- The last piece that is not idle is the last segment. -/
theorem meant_dropLast_dropIdle {tail : List (List Char)} (h : dropIdle tail ≠ []) :
    meant tail ≠ [] ∧ meant (dropIdle tail).dropLast = (meant tail).dropLast := by
  obtain ⟨front, last, hlast, hfront⟩ := exists_of_dropIdle_ne_nil h
  have hmeant : meant tail = meant front ++ [pieceSegment last] := by
    rw [← meant_dropIdle, hfront, meant_append, meant_cons, hlast]
    rfl
  rw [hfront, hmeant, List.dropLast_concat, List.dropLast_concat]
  exact ⟨by simp, rfl⟩

/-- Pieces that are put together to a path are found again in it, but for the root. -/
theorem pieces_ofPieces {head : List Char} {tail : List (List Char)} (hhead : '/' ∉ head)
    (htail : ∀ piece ∈ tail, '/' ∉ piece) (h : ¬(head = [] ∧ tail = [])) :
    (ofPieces head tail).pieces = (head, tail) := by
  rw [ofPieces, if_neg h, pieces, String.toList_ofList, Text.cutBetween_joinBetween hhead htail]

/-- What pieces mean that are put together to a path. -/
theorem segments_ofPieces {head : List Char} {tail : List (List Char)} (hhead : '/' ∉ head)
    (htail : ∀ piece ∈ tail, '/' ∉ piece) :
    (ofPieces head tail).segments =
      (if head = [] then [.root] else [pieceSegment head]) ++ meant tail := by
  by_cases h : head = [] ∧ tail = []
  · rw [h.1, h.2]
    decide
  · rw [segments_eq, lead_eq, pieces_ofPieces hhead htail h]
    by_cases hempty : head = []
    · have htail : tail ≠ [] := fun h' => h ⟨hempty, h'⟩
      rw [if_pos hempty, if_pos hempty, if_neg htail]
    · rw [if_neg hempty, if_neg hempty]

/-- **A parent has all segments but the last.** -/
theorem segments_parent {p q : Path} (h : p.parent = some q) :
    q.segments = p.segments.dropLast := by
  unfold parent at h
  dsimp only at h
  split at h
  · rename_i hidle
    have hmeant : meant p.pieces.2 = [] := by rw [← meant_dropIdle, hidle]; rfl
    split at h
    · cases h
    · rename_i hhead
      obtain rfl := Option.some.inj h
      rw [segments_eq p, lead_eq, if_neg hhead, hmeant]
      rfl
  · rename_i piece pieces hkept
    obtain rfl := Option.some.inj h
    have hne : dropIdle p.pieces.2 ≠ [] := by simp [hkept]
    obtain ⟨hmeant, hdrop⟩ := meant_dropLast_dropIdle hne
    have htail : p.pieces.2 ≠ [] := by
      intro hnone
      rw [hnone] at hne
      exact hne rfl
    have hhead : '/' ∉ p.pieces.1 := Text.not_mem_of_mem_cutBetween (.inl rfl)
    have hslash : ∀ piece ∈ dropIdle (dropIdle p.pieces.2).dropLast, '/' ∉ piece := by
      intro piece hpiece
      have hmem := List.mem_of_mem_dropLast (mem_of_mem_dropIdle hpiece)
      exact Text.not_mem_of_mem_cutBetween (.inr (mem_of_mem_dropIdle hmem))
    rw [← hkept, segments_ofPieces hhead hslash, meant_dropIdle, hdrop, segments_eq p, lead_eq,
      if_neg htail, List.dropLast_append_of_ne_nil hmeant]

/-- A path has no parent only if it has no segment but the root. -/
theorem segments_of_parent_eq_none {p : Path} (h : p.parent = none) :
    p.segments = [] ∨ p.segments = [.root] := by
  unfold parent at h
  dsimp only at h
  split at h
  · rename_i hidle
    have hmeant : meant p.pieces.2 = [] := by rw [← meant_dropIdle, hidle]; rfl
    split at h <;> rename_i hhead
    · rw [segments_eq, lead_eq, if_pos hhead, hmeant]
      split <;> simp
    · cases h
  · cases h

/-- The directory of a path leads to where its segments lead without the last, if that is a name. -/
theorem normal_directory {p : Path} {front : List Segment} {file : String}
    (h : p.segments = front ++ [.name file]) : p.directory.normal = front.foldl .push .empty := by
  unfold directory
  split <;> rename_i hparent
  · -- What has no segments leads nowhere, and so does `.`.
    have hfront := segments_parent hparent
    rw [h, List.dropLast_concat] at hfront
    rw [← hfront]
    rfl
  · rw [normal, segments_parent hparent, h, List.dropLast_concat]
  · rcases segments_of_parent_eq_none hparent with hnone | hroot
    · simp [hnone] at h
    · exact absurd (congrArg List.getLast? (h.symm.trans hroot)) (by simp)

theorem fileName_eq_some_iff {p : Path} {file : String} :
    p.fileName = some file ↔ p.segments.getLast? = some (.name file) := by
  unfold fileName
  split
  · rename_i s hlast
    simp [hlast]
  · rename_i hlast
    exact iff_of_false nofun (hlast file)

/-- **A file is in its directory**: its name behind the directory leads to where the path leads. -/
theorem normal_directory_join {p : Path} {file : String} (h : p.fileName = some file) :
    (p.directory.join ⟨file⟩).normal = p.normal := by
  obtain ⟨front, hfront⟩ := List.getLast?_eq_some_iff.mp (fileName_eq_some_iff.mp h)
  rw [normal_join, normal_directory hfront, (isPlain_of_fileName h).segments_eq, normal, hfront,
    List.foldl_append]

/-- A path that is joined keeps its file name. -/
theorem fileName_join (base : Path) {p : Path} {file : String} (h : p.fileName = some file) :
    (base.join p).fileName = some file := by
  by_cases hp : p.isAbsolute = true
  · rwa [join_of_isAbsolute hp]
  · rw [Bool.not_eq_true] at hp
    by_cases hbase : base.text = ""
    · rwa [join, if_neg (by simp [hp]), if_pos (.inl hbase), hbase, String.empty_append]
    · obtain ⟨front, hfront⟩ := List.getLast?_eq_some_iff.mp (fileName_eq_some_iff.mp h)
      rw [fileName_eq_some_iff, segments_join hbase hp, hfront, List.filter_append,
        ← List.append_assoc]
      exact List.getLast?_concat

end Path

/-! ### Normal forms -/

namespace NormalPath

variable {absolute : Bool} {names : List String} {s : String}

/-- A name that is left at the end of a way along segments was there before, or is one of them. -/
theorem mem_names_foldl_push {segments : List Segment} {n : NormalPath}
    (h : s ∈ (segments.foldl push n).names) : s ∈ n.names ∨ .name s ∈ segments := by
  induction segments generalizing n with
  | nil => exact .inl h
  | cons segment segments ih =>
      rcases ih h with hpushed | hrest
      · cases segment with
        | root => cases hpushed
        | here => exact .inl hpushed
        | up => exact .inl (List.mem_of_mem_dropLast hpushed)
        | name t =>
            rcases List.mem_append.mp hpushed with hfront | hlast
            · exact .inl hfront
            · rw [List.mem_singleton.mp hlast]
              exact .inr List.mem_cons_self
      · exact .inr (List.mem_cons_of_mem _ hrest)

/-- The last name is spelled last. -/
theorem exists_toPath_eq (absolute : Bool) (names : List String) (s : String) :
    ∃ before, (toPath ⟨absolute, names ++ [s]⟩).text = before ++ s := by
  by_cases hne : names = []
  · subst hne
    refine ⟨if absolute then "/" else "", ?_⟩
    rw [toPath, List.nil_append, String.intercalate_singleton]
  · refine ⟨(if absolute then "/" else "") ++ "/".intercalate names ++ "/", ?_⟩
    rw [toPath, String.intercalate_append_of_ne_nil hne (by simp), String.intercalate_singleton]
    simp only [String.append_assoc]

/-- A spelling with a name at its end does not end in a slash. -/
theorem getLast?_toPath (h : Path.IsPlain s) :
    (toPath ⟨absolute, names ++ [s]⟩).text.toList.getLast? ≠ some '/' := by
  obtain ⟨before, hbefore⟩ := exists_toPath_eq absolute names s
  have hne : s.toList ≠ [] := by simpa using h.ne_empty
  rw [hbefore, String.toList_append, List.getLast?_append_of_ne_nil _ hne]
  exact fun hlast => h.no_slash (List.mem_of_getLast? hlast)

/-- One more name is spelled by joining it. -/
theorem toPath_append (hnames : ∀ name ∈ names, Path.IsPlain name) (h : Path.IsPlain s) :
    toPath ⟨absolute, names ++ [s]⟩ = (toPath ⟨absolute, names⟩).join ⟨s⟩ := by
  rw [Path.join, if_neg (by simp [h.isAbsolute_eq])]
  rcases List.eq_nil_or_concat' names with rfl | ⟨front, last, rfl⟩
  · cases absolute <;> simp [toPath]
  · have hlast : Path.IsPlain last := hnames last (by simp)
    have hempty : (toPath ⟨absolute, front ++ [last]⟩).text ≠ "" := by
      obtain ⟨before, hbefore⟩ := exists_toPath_eq absolute front last
      simp [hbefore, hlast.ne_empty]
    rw [if_neg (not_or.mpr ⟨hempty, getLast?_toPath hlast⟩), toPath,
      String.intercalate_append_of_ne_nil (by simp) (by simp), String.intercalate_singleton]
    simp only [toPath, String.append_assoc]

/-- What is spelled with plain names is read as it was meant. -/
theorem normal_toPath {n : NormalPath} (h : ∀ name ∈ n.names, Path.IsPlain name) :
    n.toPath.normal = n := by
  obtain ⟨absolute, names⟩ := n
  induction names using List.reverseRecOn with
  | nil => cases absolute <;> decide
  | append_singleton names s ih =>
      obtain ⟨hnames, hs⟩ := List.forall_mem_append.mp h
      rw [List.forall_mem_singleton] at hs
      rw [toPath_append hnames hs, Path.normal_join, hs.segments_eq, ih hnames]
      rfl

/-- What is spelled with plain names has these as its segments, behind the root if it is
absolute. -/
theorem segments_toPath {n : NormalPath} (h : ∀ name ∈ n.names, Path.IsPlain name) :
    n.toPath.segments = (if n.absolute then [.root] else []) ++ n.names.map .name := by
  obtain ⟨absolute, names⟩ := n
  induction names using List.reverseRecOn with
  | nil => cases absolute <;> decide
  | append_singleton names s ih =>
      obtain ⟨hnames, hs⟩ := List.forall_mem_append.mp h
      rw [List.forall_mem_singleton] at hs
      rw [toPath_append hnames hs, hs.segments_join, ih hnames, List.append_assoc, List.map_append]
      rfl

end NormalPath

namespace Path

/-- The names of a normal form are plain. -/
theorem isPlain_of_mem_normal {p : Path} {s : String} (h : s ∈ p.normal.names) : IsPlain s := by
  rcases NormalPath.mem_names_foldl_push h with hempty | hsegment
  · cases hempty
  · exact isPlain_of_mem_segments hsegment

/-- The segments of a normal form. -/
theorem segments_normalize (p : Path) :
    p.normalize.segments =
      (if p.normal.absolute then [.root] else []) ++ p.normal.names.map .name :=
  NormalPath.segments_toPath fun _ => isPlain_of_mem_normal

/-- A path keeps its normal form when it is respelled in it. -/
@[simp] theorem normal_normalize (p : Path) : p.normalize.normal = p.normal :=
  NormalPath.normal_toPath fun _ => isPlain_of_mem_normal

/-- There is one spelling for each normal form. -/
theorem normalize_eq_iff {p q : Path} : q.normalize = p.normalize ↔ q.normal = p.normal := by
  refine ⟨fun h => ?_, congrArg NormalPath.toPath⟩
  rw [← normal_normalize q, h, normal_normalize]

/-! ### Stems -/

/-- A stem is the whole name, or something with a dot behind it and no other after that. -/
theorem stemOf_cases (file : String) :
    stemOf file = file ∨ stemOf file ≠ "" ∧
      ∃ extension, file = stemOf file ++ "." ++ extension ∧ '.' ∉ extension.toList := by
  unfold stemOf
  have hsplit := List.takeWhile_append_dropWhile (p := (· != '.')) (l := file.toList.reverse)
  cases hrest : file.toList.reverse.dropWhile (· != '.') with
  | nil => exact .inl rfl
  | cons dot before =>
      cases before with
      | nil => exact .inl rfl
      | cons last before =>
          -- Read from its end, the name is the extension, its dot, and the stem.
          have hdot : dot = '.' := by
            have hne : file.toList.reverse.dropWhile (· != '.') ≠ [] := by simp [hrest]
            simpa [hrest] using List.head_dropWhile_not (· != '.') hne
          refine .inr ⟨by simp, .ofList (file.toList.reverse.takeWhile (· != '.')).reverse, ?_, ?_⟩
          · rw [hrest, hdot] at hsplit
            have hfile := congrArg List.reverse hsplit
            rw [List.reverse_reverse] at hfile
            exact String.toList_injective (by simpa using hfile.symm)
          · intro hmem
            have := List.mem_takeWhile_imp (by simpa using hmem)
            simp at this

/-- The stem of a plain name is plain, unless it is `.` or `..`. -/
theorem IsPlain.stemOf {file : String} (h : IsPlain file) (hhere : stemOf file ≠ ".")
    (hup : stemOf file ≠ "..") : IsPlain (stemOf file) := by
  rcases stemOf_cases file with hall | ⟨hne, extension, hfile, -⟩
  · rwa [hall]
  · refine ⟨hne, fun hslash => h.no_slash ?_, hhere, hup⟩
    rw [hfile]
    simp [hslash]

/-- A plain name is its own file name. -/
theorem IsPlain.fileStem_eq {file : String} (h : IsPlain file) :
    fileStem ⟨file⟩ = some (Path.stemOf file) := by
  have hname : fileName ⟨file⟩ = some file := by
    rw [fileName_eq_some_iff, h.segments_eq]
    rfl
  rw [fileStem, hname, Option.map_some]

end Path

end Ensemble
