import Mathlib.Data.List.Basic
import Ensemble.Directive

/-!
# Ensemble.Proofs.Continuation

**A root file that goes on.** A source whose last line is ended can be continued by any other
source. The main result, `readDirectives_append`, says what is read then: the directives of both,
or the first fault of the second, told by the lines of the whole. A fault of the first source
stands, unless it was that the source ended within a pair, for that pair may be completed by what
comes behind it.

The reader takes one or two lines at a time from a list of lines, so the argument is about lists of
lines (`readLines_append_of_ok`, `readLines_append_of_error`). It carries over to sources because a
source that ends with a line feed is cut at its end (`cutAfter_append`), and because the number of a
line enters into nothing but the faults (`readLines_map_renumber`).
-/

namespace Ensemble

/-! ### Lines of a source and of its continuation -/

namespace Text

/-- A sequence of pieces that are all ended: it is empty, or a separator stands last. -/
def Ended (sep : α) (xs : List α) : Prop :=
  xs = [] ∨ ∃ front, xs = front ++ [sep]

variable {sep : α} {xs : List α}

theorem Ended.append {ys : List α} (hxs : Ended sep xs) (hys : Ended sep ys) :
    Ended sep (xs ++ ys) := by
  rcases hys with rfl | ⟨front, rfl⟩
  · rwa [List.append_nil]
  · exact .inr ⟨xs ++ front, (List.append_assoc _ _ _).symm⟩

/-- What is ended consists of lines, each ended by the separator. -/
theorem Ended.exists_lines [DecidableEq α] (h : Ended sep xs) :
    ∃ lines : List (List α), (∀ line ∈ lines, sep ∉ line) ∧ xs = lines.flatMap (· ++ [sep]) := by
  obtain rfl | ⟨front, rfl⟩ := h
  · exact ⟨[], by simp, rfl⟩
  induction front with
  | nil => exact ⟨[[]], by simp, rfl⟩
  | cons x front ih =>
      obtain ⟨lines, hlines, heq⟩ := ih
      by_cases hx : x = sep
      · subst hx
        exact ⟨[] :: lines, List.forall_mem_cons.mpr ⟨List.not_mem_nil, hlines⟩, by simp [heq]⟩
      · -- The first line grows; there is one, since a separator stands behind `front`.
        cases lines with
        | nil => simp at heq
        | cons line lines =>
            obtain ⟨hline, hlines⟩ := List.forall_mem_cons.mp hlines
            refine ⟨(x :: line) :: lines, List.forall_mem_cons.mpr ⟨?_, hlines⟩, by simp [heq]⟩
            simp [Ne.symm hx, hline]

/-- What is ended is cut at its end, whatever comes behind it. -/
theorem cutAfter_append [DecidableEq α] (h : Ended sep xs) (ys : List α) :
    cutAfter sep (xs ++ ys) = cutAfter sep xs ++ cutAfter sep ys := by
  obtain ⟨lines, hlines, rfl⟩ := h.exists_lines
  have halone := cutAfter_lines hlines []
  rw [List.append_nil] at halone
  rw [cutAfter_lines hlines, halone, cutAfter, List.append_nil]

/-- What is ended has as many pieces as separators. -/
theorem length_cutAfter [DecidableEq α] (h : Ended sep xs) :
    (cutAfter sep xs).length = xs.count sep := by
  obtain ⟨lines, hlines, rfl⟩ := h.exists_lines
  have halone := cutAfter_lines hlines []
  rw [List.append_nil] at halone
  rw [halone, cutAfter, List.append_nil, List.length_map]
  clear halone h
  induction lines with
  | nil => rfl
  | cons line lines ih =>
      obtain ⟨hline, hlines⟩ := List.forall_mem_cons.mp hlines
      simp [ih hlines, List.count_eq_zero.mpr hline, Nat.add_comm]

end Text

/-- The line, further down by some lines. -/
def SourceLine.later (n : Nat) : SourceLine → SourceLine
  | .text number content => .text (number + n) content
  | .garbled => .garbled

theorem numberLines_append (number : Nat) (xs ys : List Text.Bytes) :
    numberLines number (xs ++ ys) =
      numberLines number xs ++ numberLines (number + xs.length) ys := by
  induction xs generalizing number with
  | nil => rfl
  | cons bytes xs ih =>
      rw [List.cons_append, numberLines, numberLines, ih, List.append_assoc, List.length_cons,
        Nat.add_assoc, Nat.add_comm 1]

theorem SourceLine.ofBytes?_add (number n : Nat) (bytes : Text.Bytes) :
    ofBytes? (number + n) bytes = (ofBytes? number bytes).map (later n) := by
  unfold ofBytes?
  split
  · rfl
  · dsimp only
    split <;> rfl

theorem numberLines_add (number n : Nat) (xs : List Text.Bytes) :
    numberLines (number + n) xs = (numberLines number xs).map (SourceLine.later n) := by
  induction xs generalizing number with
  | nil => rfl
  | cons bytes xs ih =>
      rw [numberLines, numberLines, List.map_append, Nat.add_right_comm, ih,
        SourceLine.ofBytes?_add]
      cases SourceLine.ofBytes? number bytes <;> rfl

/-- The lines of a continued source: its own, and those of the continuation further down. -/
theorem sourceLines_append {a : Text.Bytes} (ha : Text.Ended Text.lineFeed a) (b : Text.Bytes) :
    sourceLines (a ++ b) =
      sourceLines a ++ (sourceLines b).map (SourceLine.later (a.count Text.lineFeed)) := by
  rw [sourceLines, Text.cutAfter_append ha, numberLines_append, Text.length_cutAfter ha,
    numberLines_add]
  rfl

/-! ### Reading on -/

/-- The fault, told of a line that is further down by some lines. -/
def Fault.later (n : Nat) : Fault → Fault
  | .parse line pair => .parse (line + n) pair
  | fault => fault

/-- The source ended where the second line of a pair was expected. -/
def Fault.IsCutOff (fault : Fault) : Prop :=
  ∃ line opener, fault = .parse line (.cutOff opener)

/-- The line under another number. -/
def SourceLine.renumber (f : Nat → Nat) : SourceLine → SourceLine
  | .text number content => .text (f number) content
  | .garbled => .garbled

/-- The fault, told of a line under another number. -/
def Fault.renumber (f : Nat → Nat) : Fault → Fault
  | .parse line pair => .parse (f line) pair
  | fault => fault

/-- The numbers of the lines are told in faults and nowhere else. -/
theorem readLines_map_renumber (f : Nat → Nat) (xs : List SourceLine) :
    readLines (xs.map (SourceLine.renumber f)) = (readLines xs).mapError (Fault.renumber f) := by
  have hmap (d : Directive) (result : Except Fault (List Directive)) :
      (d :: ·) <$> result.mapError (Fault.renumber f) =
        ((d :: ·) <$> result).mapError (Fault.renumber f) := by cases result <;> rfl
  fun_induction readLines xs with
  | case1 => rfl
  | case2 rest => rfl
  | case3 number line rest hsentence ih =>
      rw [List.map_cons, SourceLine.renumber, readLines, hsentence]
      exact ih
  | case4 number line rest d hsentence ih =>
      rw [List.map_cons, SourceLine.renumber, readLines, hsentence]
      dsimp only
      rw [ih, hmap]
  | case5 number line opener opened hsentence =>
      simp only [List.map_cons, List.map_nil, SourceLine.renumber, readLines, hsentence]
      rfl
  | case6 number line opener opened hsentence rest =>
      simp only [List.map_cons, SourceLine.renumber, readLines, hsentence]
      rfl
  | case7 number line opener opened hsentence second got rest d hcomplete ih =>
      simp only [List.map_cons, SourceLine.renumber, readLines, hsentence, hcomplete, ih, hmap]
  | case8 number line opener opened hsentence second got rest hcomplete =>
      simp only [List.map_cons, SourceLine.renumber, readLines, hsentence, hcomplete]
      rfl

theorem readLines_map_later (n : Nat) (xs : List SourceLine) :
    readLines (xs.map (SourceLine.later n)) = (readLines xs).mapError (Fault.later n) := by
  have hline : SourceLine.later n = SourceLine.renumber (· + n) := by
    funext x
    cases x <;> rfl
  have hfault : Fault.later n = Fault.renumber (· + n) := by
    funext fault
    cases fault <;> rfl
  rw [hline, hfault, readLines_map_renumber]

/-- A directive that stands first was declared by what was read first. -/
theorem exists_of_cons_map_eq_ok {d : Directive} {result : Except Fault (List Directive)}
    {ds : List Directive} (h : (d :: ·) <$> result = .ok ds) :
    ∃ others, result = .ok others ∧ ds = d :: others := by
  cases result with
  | error fault => cases h
  | ok others => exact ⟨others, rfl, (Except.ok.inj h).symm⟩

theorem eq_error_of_cons_map {d : Directive} {result : Except Fault (List Directive)}
    {fault : Fault} (h : (d :: ·) <$> result = .error fault) : result = .error fault := by
  cases result with
  | error fault' => exact h
  | ok others => cases h

/-- Lines that are accepted are read, and then the lines behind them. -/
theorem readLines_append_of_ok {xs : List SourceLine} {ds : List Directive}
    (h : readLines xs = .ok ds) (ys : List SourceLine) :
    readLines (xs ++ ys) = (ds ++ ·) <$> readLines ys := by
  fun_induction readLines xs generalizing ds with
  | case1 =>
      cases h
      rw [List.nil_append]
      cases readLines ys <;> rfl
  | case2 rest => cases h
  | case3 number line rest hsentence ih =>
      rw [List.cons_append, readLines, hsentence]
      exact ih h
  | case4 number line rest d hsentence ih =>
      obtain ⟨others, hothers, rfl⟩ := exists_of_cons_map_eq_ok h
      rw [List.cons_append, readLines, hsentence]
      dsimp only
      rw [ih hothers]
      cases readLines ys <;> rfl
  | case5 number line opener opened hsentence => cases h
  | case6 number line opener opened hsentence rest => cases h
  | case7 number line opener opened hsentence second got rest d hcomplete ih =>
      obtain ⟨others, hothers, rfl⟩ := exists_of_cons_map_eq_ok h
      simp only [List.cons_append, readLines, hsentence, hcomplete, ih hothers]
      cases readLines ys <;> rfl
  | case8 number line opener opened hsentence second got rest hcomplete => cases h

/-- A fault stands whatever comes behind the lines, if it was met before they ended. -/
theorem readLines_append_of_error {xs : List SourceLine} {fault : Fault}
    (h : readLines xs = .error fault) (hfault : ¬fault.IsCutOff) (ys : List SourceLine) :
    readLines (xs ++ ys) = .error fault := by
  fun_induction readLines xs with
  | case1 => cases h
  | case2 rest =>
      cases h
      rfl
  | case3 number line rest hsentence ih =>
      rw [List.cons_append, readLines, hsentence]
      exact ih h
  | case4 number line rest d hsentence ih =>
      rw [List.cons_append, readLines, hsentence]
      dsimp only
      rw [ih (eq_error_of_cons_map h)]
      rfl
  | case5 number line opener opened hsentence =>
      cases h
      exact absurd ⟨number, opener, rfl⟩ hfault
  | case6 number line opener opened hsentence rest =>
      cases h
      simp only [List.cons_append, readLines, hsentence]
  | case7 number line opener opened hsentence second got rest d hcomplete ih =>
      simp only [List.cons_append, readLines, hsentence, hcomplete, ih (eq_error_of_cons_map h)]
      rfl
  | case8 number line opener opened hsentence second got rest hcomplete =>
      cases h
      simp only [List.cons_append, readLines, hsentence, hcomplete]

/-- The reader refuses a source for a broken pair, or for a line that is not UTF-8. -/
theorem fault_of_readLines {xs : List SourceLine} {fault : Fault}
    (h : readLines xs = .error fault) :
    (∃ line pair, fault = .parse line pair) ∨ fault = .io .notUtf8 := by
  fun_induction readLines xs with
  | case1 => cases h
  | case2 rest =>
      cases h
      exact .inr rfl
  | case3 number line rest hsentence ih => exact ih h
  | case4 number line rest d hsentence ih => exact ih (eq_error_of_cons_map h)
  | case5 number line opener opened hsentence =>
      cases h
      exact .inl ⟨number, .cutOff opener, rfl⟩
  | case6 number line opener opened hsentence rest =>
      cases h
      exact .inr rfl
  | case7 number line opener opened hsentence second got rest d hcomplete ih =>
      exact ih (eq_error_of_cons_map h)
  | case8 number line opener opened hsentence second got rest hcomplete =>
      cases h
      exact .inl ⟨second, .wrongSecond opener got, rfl⟩

/-- **A source is read line by line.** Behind a source that is empty or ends with a line feed:

* if it is accepted, the continuation is read as by itself, and what it declares comes behind; a
  broken pair in it is told by its line in the whole and in the same words, and a line that is not
  UTF-8 as before;
* if it is refused, and not because it ended within a pair, the whole is refused for the same
  fault. -/
theorem readDirectives_append {a : Text.Bytes} (ha : a = [] ∨ ∃ front, a = front ++ [Text.lineFeed])
    (b : Text.Bytes) :
    (∀ da, readDirectives a = .ok da →
      (∃ db, readDirectives b = .ok db ∧ readDirectives (a ++ b) = .ok (da ++ db)) ∨
      (∃ line pair, readDirectives b = .error (.parse line pair) ∧
        readDirectives (a ++ b) = .error (.parse (line + a.count Text.lineFeed) pair)) ∨
      (readDirectives b = .error (.io .notUtf8) ∧
        readDirectives (a ++ b) = .error (.io .notUtf8))) ∧
    ∀ fault, readDirectives a = .error fault →
      (∀ line opener, fault ≠ .parse line (.cutOff opener)) →
      readDirectives (a ++ b) = .error fault := by
  have hlines := sourceLines_append ha b
  refine ⟨fun da hread => ?_, fun fault hread hfault => ?_⟩
  · have hwhole : readDirectives (a ++ b) =
        (da ++ ·) <$> (readDirectives b).mapError (Fault.later (a.count Text.lineFeed)) := by
      rw [readDirectives, hlines, readLines_append_of_ok hread, readLines_map_later]
      rfl
    rw [hwhole]
    cases hb : readDirectives b with
    | ok db => exact .inl ⟨db, rfl, rfl⟩
    | error fault =>
        obtain ⟨line, pair, rfl⟩ | rfl := fault_of_readLines hb
        · exact .inr (.inl ⟨line, pair, rfl, rfl⟩)
        · exact .inr (.inr ⟨rfl, rfl⟩)
  · rw [readDirectives, hlines]
    exact readLines_append_of_error hread (fun ⟨line, opener, h⟩ => hfault line opener h) _

/-- A broken override on the third line of what comes behind two lines, and a broken check that
nothing behind it repairs. -/
theorem readDirectives_append_broken :
    let a := Text.Utf8.encode "include a.mk\n\n"
    let b := Text.Utf8.encode "\n# override\nall:\n"
    let broken := Text.Utf8.encode "# check go\ninclude a.mk\n"
    (a = [] ∨ ∃ front, a = front ++ [Text.lineFeed]) ∧
      readDirectives a = .ok [.component ⟨⟨"a.mk"⟩, none⟩] ∧
      readDirectives (a ++ b) = .error (.parse 5 (.wrongSecond .override "all:")) ∧
      readDirectives broken = .error (.parse 2 (.wrongSecond .check "include a.mk")) ∧
      readDirectives (broken ++ a) = .error (.parse 2 (.wrongSecond .check "include a.mk")) := by
  intro a b broken
  have ha : a = [] ∨ ∃ front, a = front ++ [Text.lineFeed] :=
    .inr ⟨Text.Utf8.encode "include a.mk\n", rfl⟩
  have hbroken : broken = [] ∨ ∃ front, broken = front ++ [Text.lineFeed] :=
    .inr ⟨Text.Utf8.encode "# check go\ninclude a.mk", rfl⟩
  have hread : readDirectives a = .ok [.component ⟨⟨"a.mk"⟩, none⟩] := rfl
  have hrefused : readDirectives broken = .error (.parse 2 (.wrongSecond .check "include a.mk")) :=
    rfl
  have hb : readDirectives b = .error (.parse 3 (.wrongSecond .override "all:")) := rfl
  refine ⟨ha, hread, ?_, hrefused, ?_⟩
  · obtain ⟨db, hdb, -⟩ | ⟨line, pair, hline, hwhole⟩ | ⟨hline, -⟩ :=
      (readDirectives_append ha b).1 _ hread
    · cases hb.symm.trans hdb
    · cases hb.symm.trans hline
      exact hwhole
    · cases hb.symm.trans hline
  · exact (readDirectives_append hbroken a).2 _ hrefused (by simp)

end Ensemble
