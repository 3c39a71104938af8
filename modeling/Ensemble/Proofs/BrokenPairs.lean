import Ensemble.Proofs.Rendering

/-!
# Ensemble.Proofs.BrokenPairs

**Where a fault of the root file is told.** A text is refused for one pair of lines. The main
result, `readDirectives_broken_pair`, finds it among the physical lines: what stands before the pair
is accepted by itself, and the fault is told at the first line behind the opener that is not blank,
or at the opener if there is none. What comes behind the line that is told makes no difference.

On the lines that are not blank the reader is stuck at some point (`Stuck`), and has read what
stands before it (`readLines_stuck`). Physical lines are numbered as they are read, so a place among
the lines that are not blank is a place among all (`notBlank_eq_append_cons`).
-/

namespace Ensemble

/-! ### Where the reader is stuck -/

/-- Lines that the reader goes no further on, and the fault that it tells. -/
inductive Stuck : List SourceLine → Fault → Prop
  | garbled {rest : List SourceLine} : Stuck (.garbled :: rest) (.io .notUtf8)
  | cutOff {number : Nat} {line opened : String} {opener : Opener}
    (hopens : Sentence.ofLine line = .opens opener opened) :
    Stuck [.text number line] (.parse number (.cutOff opener))
  | garbledSecond {number : Nat} {line opened : String} {opener : Opener} {rest : List SourceLine}
    (hopens : Sentence.ofLine line = .opens opener opened) :
    Stuck (.text number line :: .garbled :: rest) (.io .notUtf8)
  | wrongSecond {number second : Nat} {line opened got : String} {opener : Opener}
    {rest : List SourceLine} (hopens : Sentence.ofLine line = .opens opener opened)
    (hunfit : opener.complete? opened got = none) :
    Stuck (.text number line :: .text second got :: rest) (.parse second (.wrongSecond opener got))

theorem Stuck.readLines_eq {rest : List SourceLine} {fault : Fault} (h : Stuck rest fault) :
    readLines rest = .error fault := by
  cases h with
  | garbled => rfl
  | cutOff hopens => simp only [readLines, hopens]
  | garbledSecond hopens => simp only [readLines, hopens]
  | wrongSecond hopens hunfit => simp only [readLines, hopens, hunfit]

/-- Lines that are refused have been read up to a point, and there the reader is stuck. -/
theorem readLines_stuck {xs : List SourceLine} {fault : Fault} (h : readLines xs = .error fault) :
    ∃ read rest, xs = read ++ rest ∧ (∃ ds, readLines read = .ok ds) ∧ Stuck rest fault := by
  fun_induction readLines xs with
  | case1 => cases h
  | case2 rest =>
      cases h
      exact ⟨[], _, rfl, ⟨[], rfl⟩, .garbled⟩
  | case3 number line rest hsentence ih =>
      obtain ⟨read, stuck, rfl, ⟨ds, hread⟩, hstuck⟩ := ih h
      refine ⟨.text number line :: read, stuck, rfl, ⟨ds, ?_⟩, hstuck⟩
      rw [readLines, hsentence]
      exact hread
  | case4 number line rest d hsentence ih =>
      obtain ⟨read, stuck, rfl, ⟨ds, hread⟩, hstuck⟩ := ih (eq_error_of_cons_map h)
      refine ⟨.text number line :: read, stuck, rfl, ⟨d :: ds, ?_⟩, hstuck⟩
      rw [readLines, hsentence]
      dsimp only
      rw [hread]
      rfl
  | case5 number line opener opened hsentence =>
      cases h
      exact ⟨[], _, rfl, ⟨[], rfl⟩, .cutOff hsentence⟩
  | case6 number line opener opened hsentence rest =>
      cases h
      exact ⟨[], _, rfl, ⟨[], rfl⟩, .garbledSecond hsentence⟩
  | case7 number line opener opened hsentence second got rest d hcomplete ih =>
      obtain ⟨read, stuck, rfl, ⟨ds, hread⟩, hstuck⟩ := ih (eq_error_of_cons_map h)
      refine ⟨.text number line :: .text second got :: read, stuck, rfl, ⟨d :: ds, ?_⟩, hstuck⟩
      simp only [readLines, hsentence, hcomplete, hread]
      rfl
  | case8 number line opener opened hsentence second got rest hcomplete =>
      cases h
      exact ⟨[], _, rfl, ⟨[], rfl⟩, .wrongSecond hsentence hcomplete⟩

/-! ### Openers and their second lines -/

namespace Opener

/-- The keyword of an opener. -/
def keyword : Opener → Keyword
  | .check => .check
  | .external => .external
  | .override => .override

/-- The lines that an opener takes as its second. -/
def Takes : Opener → String → Prop
  | .check, line => ∃ equals, line = "# equal " ++ equals
  | .external, line => ∃ path, line = "include " ++ path
  | .override, line => ∃ name target rest, Block.IsName name ∧ Block.IsName target ∧
    line = name ++ "/" ++ target ++ ":" ++ rest

/-- A line opens a pair exactly if it begins with the keyword of an opener. -/
theorem ofLine_eq_opens_iff {line : String} {opener : Opener} :
    (∃ opened, Sentence.ofLine line = .opens opener opened) ↔
      ∃ rest, line = opener.keyword.lead ++ rest := by
  constructor
  · rintro ⟨opened, h⟩
    unfold Sentence.ofLine at h
    split at h <;> rename_i hk <;> cases h <;>
      exact ⟨_, Keyword.classify_eq_some_iff.mp hk⟩
  · rintro ⟨rest, rfl⟩
    cases opener with
    | check => exact ⟨_, Block.ofLine_check rest⟩
    | external => exact ⟨_, Block.ofLine_external rest⟩
    | override => exact ⟨_, Block.ofLine_override rest⟩

/-- A second line completes a pair exactly if the opener takes it. -/
theorem complete?_eq_none_iff {opener : Opener} {opened second : String} :
    opener.complete? opened second = none ↔ ¬opener.Takes second := by
  rw [← Option.not_isSome_iff_eq_none, not_iff_not, Option.isSome_iff_exists]
  cases opener with
  | check => simp [complete?, Takes, Keyword.strip, Text.afterLead?_eq_some_iff, Keyword.lead]
  | external => simp [complete?, Takes, Keyword.strip, Text.afterLead?_eq_some_iff, Keyword.lead]
  | override =>
      simp only [complete?, Takes, Option.map_eq_some_iff, Override.ofLine?_eq_some_iff]
      constructor
      · rintro ⟨-, o, ⟨⟨rest, hline⟩, hname, htarget⟩, -⟩
        exact ⟨o.component, o.target, rest, hname, htarget, hline⟩
      · rintro ⟨name, target, rest, hname, htarget, hline⟩
        exact ⟨_, ⟨name, target⟩, ⟨⟨rest, hline⟩, hname, htarget⟩, rfl⟩

end Opener

/-! ### Physical lines -/

namespace Text

/-- What stands before some piece of a cut is cut into the pieces before it. It is ended, if there is
a piece behind it. -/
theorem cutAfter_front [DecidableEq α] {sep : α} {xs : List α} {front behind : List (List α)}
    (h : cutAfter sep xs = front ++ behind) :
    cutAfter sep front.flatten = front ∧ (behind ≠ [] → Ended sep front.flatten) := by
  induction front generalizing xs with
  | nil => exact ⟨rfl, fun _ => .inl rfl⟩
  | cons piece front ih =>
      by_cases hsep : sep ∈ xs
      · -- The first piece goes up to the first separator, and the others are cut from the rest.
        obtain ⟨line, rest, rfl, hline⟩ := List.eq_append_cons_of_mem hsep
        rw [cutAfter_append_cons hline, List.cons_append] at h
        obtain ⟨rfl, hrest⟩ := List.cons.inj h
        obtain ⟨hcut, hended⟩ := ih hrest
        rw [List.flatten_cons]
        refine ⟨?_, fun hbehind => .append (.inr ⟨line, rfl⟩) (hended hbehind)⟩
        rw [List.append_assoc, List.singleton_append, cutAfter_append_cons hline, hcut]
      · rw [cutAfter_of_not_mem hsep] at h
        split at h
        · cases h
        · rename_i hne
          obtain ⟨rfl, hnone⟩ := List.cons.inj h
          obtain ⟨rfl, rfl⟩ := List.append_eq_nil_iff.mp hnone.symm
          refine ⟨?_, fun hbehind => absurd rfl hbehind⟩
          rw [List.flatten_singleton, cutAfter_of_not_mem hsep, if_neg hne]

/-- A text that is ended is ended in its bytes as well. -/
theorem Utf8.ended_encode {s : String} (h : Ended '\n' s.toList) :
    Ended lineFeed (Utf8.encode s) := by
  rcases h with h | ⟨front, h⟩
  · exact .inl (by rw [Utf8.encode, h]; rfl)
  · refine .inr ⟨front.flatMap String.utf8EncodeChar, ?_⟩
    rw [Utf8.encode, h, List.flatMap_append]
    rfl

/-- The lines of a text as they stand there, each with what ends it. -/
def physicalLines (s : String) : List String :=
  (cutAfter '\n' s.toList).map .ofList

/-- A physical line without what ends it. -/
def bare (line : String) : String :=
  .ofList (withoutTerminator line.toList)

/-- The lines in front of a text are those of the text that they make up. -/
theorem physicalLines_join {s : String} {front behind : List String}
    (h : physicalLines s = front ++ behind) : physicalLines (String.join front) = front := by
  obtain ⟨pieces, rest, hcut, rfl, -⟩ := List.map_eq_append_iff.mp h
  have hjoin : (String.join (pieces.map .ofList)).toList = pieces.flatten := by
    rw [String.toList_join, List.flatMap_map]
    simp [List.flatMap_def]
  rw [physicalLines, hjoin, (cutAfter_front hcut).1]

end Text

/-- What the reader finds of a physical line under its number. -/
def found? (line : String × Nat) : Option SourceLine :=
  if Text.isAllBlank (Text.bare line.1) then none else some (.text line.2 (Text.bare line.1))

/-- What the reader finds among physical lines, the first of which has this number. -/
def notBlank (number : Nat) (lines : List String) : List SourceLine :=
  (lines.zipIdx number).filterMap found?

theorem sourceLines_eq_notBlank (s : String) :
    sourceLines (Text.Utf8.encode s) = notBlank 1 (Text.physicalLines s) := by
  have hlines : Text.lines s = (Text.physicalLines s).map Text.bare := by
    simp [Text.lines, Text.physicalLines, Text.bare]
  rw [sourceLines_encode, Text.writtenLines, hlines, List.zipIdx_map, List.filter_map, List.map_map,
    ← List.filterMap_eq_map, List.filterMap_filter]
  refine List.filterMap_congr fun line _ => ?_
  cases hblank : Text.isAllBlank (Text.bare line.1) <;> simp [found?, hblank, SourceLine.ofLine]

/-- The numbers go on behind the lines in front. -/
theorem notBlank_append (number : Nat) (front behind : List String) :
    notBlank number (front ++ behind) =
      notBlank number front ++ notBlank (number + front.length) behind := by
  rw [notBlank, List.zipIdx_append, List.filterMap_append]
  rfl

theorem found?_eq_none_iff {line : String × Nat} :
    found? line = none ↔ Text.isAllBlank (Text.bare line.1) := by
  simp [found?]

theorem found?_eq_some_iff {line : String × Nat} {found : SourceLine} :
    found? line = some found ↔ Text.isAllBlank (Text.bare line.1) = false ∧
      found = .text line.2 (Text.bare line.1) := by
  cases hblank : Text.isAllBlank (Text.bare line.1) <;> simp [found?, hblank, eq_comm]

theorem notBlank_cons {line : String} (h : Text.isAllBlank (Text.bare line) = false) (number : Nat)
    (lines : List String) :
    notBlank number (line :: lines) =
      .text number (Text.bare line) :: notBlank (number + 1) lines := by
  have hfound : found? (line, number) = some (.text number (Text.bare line)) :=
    found?_eq_some_iff.mpr ⟨h, rfl⟩
  rw [notBlank, List.zipIdx_cons, List.filterMap_cons, hfound]
  rfl

theorem notBlank_eq_nil_iff {number : Nat} {lines : List String} :
    notBlank number lines = [] ↔ ∀ line ∈ lines, Text.isAllBlank (Text.bare line) := by
  conv_rhs => rw [← List.zipIdx_map_fst number lines, List.forall_mem_map]
  simp only [notBlank, List.filterMap_eq_nil_iff, found?_eq_none_iff]

/-- What the reader finds at some place is the physical line there, under its number. -/
theorem notBlank_eq_append_cons {number : Nat} {lines : List String} {front rest : List SourceLine}
    {found : SourceLine} (h : notBlank number lines = front ++ found :: rest) :
    ∃ before line behind, lines = before ++ line :: behind ∧
      found = .text (number + before.length) (Text.bare line) ∧
      Text.isAllBlank (Text.bare line) = false ∧ notBlank number before = front ∧
      notBlank (number + before.length + 1) behind = rest := by
  obtain ⟨_, _, hsplit, hfront, hrest⟩ := List.filterMap_eq_append_iff.mp h
  obtain ⟨before, others, rfl, rfl, rfl⟩ := List.zipIdx_eq_append_iff.mp hsplit
  -- Behind what is found in front there may be blank lines.
  obtain ⟨_, _, _, hsplit, hgap, hfound, hbehind⟩ := List.filterMap_eq_cons_iff.mp hrest
  obtain ⟨gap, _, rfl, rfl, htail⟩ := List.zipIdx_eq_append_iff.mp hsplit
  obtain ⟨line, behind, rfl, rfl, rfl⟩ := List.zipIdx_eq_cons_iff.mp htail.symm
  obtain ⟨hwritten, rfl⟩ := found?_eq_some_iff.mp hfound
  have hnumber : number + (before ++ gap).length = number + before.length + gap.length := by
    rw [List.length_append, Nat.add_assoc]
  refine ⟨before ++ gap, line, behind, by rw [List.append_assoc], by rw [hnumber], hwritten, ?_, ?_⟩
  · have hnone : notBlank (number + before.length) gap = [] := List.filterMap_eq_nil_iff.mpr hgap
    rw [notBlank_append, hnone, List.append_nil]
    exact hfront
  · rw [hnumber]
    exact hbehind

/-! ### Broken pairs -/

/-- These lines are a source that is accepted. -/
def Accepted (lines : List String) : Prop :=
  ∃ ds, readDirectives (Text.Utf8.encode (String.join lines)) = .ok ds

/-- Among physical lines a pair is opened behind those `before` that is broken: by the first line
that is not blank behind its opener, or because there is none. The fault is told at that line, or at
the opener. -/
inductive BrokenBehind (lines before : List String) : Nat → BrokenPair → Prop
  | cutOff {opening rest : String} {opener : Opener} {behind : List String}
    (hlines : lines = before ++ opening :: behind)
    (hopens : Text.bare opening = opener.keyword.lead ++ rest)
    (hblank : ∀ line ∈ behind, Text.isAllBlank (Text.bare line)) :
    BrokenBehind lines before (before.length + 1) (.cutOff opener)
  | wrongSecond {opening rest second : String} {opener : Opener} {gap behind : List String}
    (hlines : lines = before ++ opening :: (gap ++ second :: behind))
    (hopens : Text.bare opening = opener.keyword.lead ++ rest)
    (hgap : ∀ line ∈ gap, Text.isAllBlank (Text.bare line))
    (hsecond : Text.isAllBlank (Text.bare second) = false)
    (hunfit : ¬opener.Takes (Text.bare second)) :
    BrokenBehind lines before (before.length + gap.length + 2)
      (.wrongSecond opener (Text.bare second))

/-- Where the reader is stuck, there is a broken pair. -/
theorem exists_brokenBehind {text : String} {fault : Fault}
    (h : readDirectives (Text.Utf8.encode text) = .error fault) :
    ∃ before n pair, fault = .parse n pair ∧ Accepted before ∧
      BrokenBehind (Text.physicalLines text) before n pair := by
  rw [readDirectives, sourceLines_eq_notBlank] at h
  obtain ⟨read, rest, hlines, ⟨ds, hread⟩, hstuck⟩ := readLines_stuck h
  have haccepted {before behind : List String}
      (hsplit : Text.physicalLines text = before ++ behind) (hbefore : notBlank 1 before = read) :
      Accepted before := by
    refine ⟨ds, ?_⟩
    rw [readDirectives, sourceLines_eq_notBlank, Text.physicalLines_join hsplit, hbefore, hread]
  cases hstuck with
  | garbled =>
      obtain ⟨_, _, _, _, hfound, _⟩ := notBlank_eq_append_cons hlines
      cases hfound
  | garbledSecond hopens =>
      rw [List.append_cons] at hlines
      obtain ⟨_, _, _, _, hfound, _⟩ := notBlank_eq_append_cons hlines
      cases hfound
  | cutOff hopens =>
      obtain ⟨before, opening, behind, hsplit, hfound, -, hbefore, hbehind⟩ :=
        notBlank_eq_append_cons hlines
      cases hfound
      obtain ⟨rest, hrest⟩ := Opener.ofLine_eq_opens_iff.mp ⟨_, hopens⟩
      rw [Nat.add_comm 1]
      exact ⟨before, _, _, rfl, haccepted hsplit hbefore,
        .cutOff hsplit hrest (notBlank_eq_nil_iff.mp hbehind)⟩
  | wrongSecond hopens hunfit =>
      obtain ⟨before, opening, behind, hsplit, hfound, -, hbefore, hbehind⟩ :=
        notBlank_eq_append_cons hlines
      cases hfound
      -- The second line is the first that is found behind the opener.
      rw [← List.nil_append (_ :: _)] at hbehind
      obtain ⟨gap, second, behind, rfl, hfound, hsecond, hgap, -⟩ := notBlank_eq_append_cons hbehind
      cases hfound
      obtain ⟨rest, hrest⟩ := Opener.ofLine_eq_opens_iff.mp ⟨_, hopens⟩
      refine ⟨before, _, _, rfl, haccepted hsplit hbefore, ?_⟩
      have hnumber : 1 + before.length + 1 + gap.length = before.length + gap.length + 2 := by omega
      rw [hnumber]
      exact .wrongSecond hsplit hrest (notBlank_eq_nil_iff.mp hgap) hsecond
        (Opener.complete?_eq_none_iff.mp hunfit)

/-- Lines that are refused behind others that are accepted. -/
theorem readDirectives_of_stuck {text : String} {before lines behind : List String} {fault : Fault}
    (hlines : Text.physicalLines text = before ++ lines ++ behind) (hbefore : Accepted before)
    (hstuck : Stuck (notBlank (1 + before.length) lines) fault) :
    readDirectives (Text.Utf8.encode (String.join (before ++ lines))) = .error fault := by
  obtain ⟨ds, hread⟩ := hbefore
  have hfront : Text.physicalLines text = before ++ (lines ++ behind) := by
    rw [hlines, List.append_assoc]
  rw [readDirectives, sourceLines_eq_notBlank, Text.physicalLines_join hfront] at hread
  rw [readDirectives, sourceLines_eq_notBlank, Text.physicalLines_join hlines, notBlank_append,
    readLines_append_of_ok hread, hstuck.readLines_eq]
  rfl

section

variable {opening rest : String} {opener : Opener}

/-- An opener is no blank line. -/
theorem notBlank_opening (hopens : Text.bare opening = opener.keyword.lead ++ rest) (number : Nat)
    (behind : List String) :
    notBlank number (opening :: behind) =
      .text number (Text.bare opening) :: notBlank (number + 1) behind := by
  have hwritten : Text.isAllBlank (Text.bare opening) = false := by
    refine Text.isAllBlank_eq_false (c := '#') ?_ (by decide)
    rw [hopens]
    cases opener <;> simp [Opener.keyword, Keyword.lead]
  exact notBlank_cons hwritten number behind

theorem stuck_cutOff (hopens : Text.bare opening = opener.keyword.lead ++ rest) (number : Nat)
    {gap : List String} (hgap : ∀ line ∈ gap, Text.isAllBlank (Text.bare line)) :
    Stuck (notBlank number (opening :: gap)) (.parse number (.cutOff opener)) := by
  obtain ⟨opened, hsentence⟩ := Opener.ofLine_eq_opens_iff.mpr ⟨rest, hopens⟩
  rw [notBlank_opening hopens, notBlank_eq_nil_iff.mpr hgap]
  exact .cutOff hsentence

theorem stuck_wrongSecond (hopens : Text.bare opening = opener.keyword.lead ++ rest) (number : Nat)
    {second : String} {gap : List String}
    (hgap : ∀ line ∈ gap, Text.isAllBlank (Text.bare line))
    (hsecond : Text.isAllBlank (Text.bare second) = false)
    (hunfit : ¬opener.Takes (Text.bare second)) (behind : List String) :
    Stuck (notBlank number (opening :: (gap ++ second :: behind)))
      (.parse (number + 1 + gap.length) (.wrongSecond opener (Text.bare second))) := by
  obtain ⟨opened, hsentence⟩ := Opener.ofLine_eq_opens_iff.mpr ⟨rest, hopens⟩
  rw [notBlank_opening hopens, notBlank_append, notBlank_eq_nil_iff.mpr hgap, List.nil_append,
    notBlank_cons hsecond]
  exact .wrongSecond hsentence (Opener.complete?_eq_none_iff.mpr hunfit)

end

namespace BrokenBehind

variable {text : String} {before before' : List String} {n n' : Nat} {pair pair' : BrokenPair}

/-- The opener of a broken pair, and that the reader is stuck on it with any lines behind it. -/
theorem exists_stuck (h : BrokenBehind lines before n pair) :
    ∃ opening behind, lines = before ++ opening :: behind ∧
      ∀ number middle, middle <+: behind →
        ∃ fault, Stuck (notBlank number (opening :: middle)) fault := by
  cases h with
  | cutOff hlines hopens hblank =>
      refine ⟨_, _, hlines, fun number middle hmiddle => ⟨_, stuck_cutOff hopens number ?_⟩⟩
      exact fun line hline => hblank line (hmiddle.subset hline)
  | wrongSecond hlines hopens hgap hsecond hunfit =>
      refine ⟨_, _, hlines, fun number middle ⟨others, hmiddle⟩ => ?_⟩
      -- The lines may end within the gap, or go on behind the line that breaks the pair.
      rcases List.append_eq_append_iff.mp hmiddle with ⟨as, hgap', -⟩ | ⟨bs, rfl, hbehind⟩
      · refine ⟨_, stuck_cutOff hopens number fun line hline => hgap line ?_⟩
        rw [hgap']
        exact List.mem_append_left _ hline
      · cases bs with
        | nil => exact ⟨_, stuck_cutOff hopens number (by simpa using hgap)⟩
        | cons second bs =>
            obtain ⟨rfl, -⟩ := List.cons.inj hbehind
            exact ⟨_, stuck_wrongSecond hopens number hgap hsecond hunfit bs⟩

/-- Lines that are accepted go no further than to a broken pair. -/
theorem eq_of_isPrefix (h : BrokenBehind (Text.physicalLines text) before n pair)
    (hbefore : Accepted before) (hbefore' : Accepted before')
    (hlines : before' <+: Text.physicalLines text) (hfirst : before <+: before') :
    before' = before := by
  obtain ⟨opening, behind, hopening, hstuck⟩ := h.exists_stuck
  obtain ⟨middle, rfl⟩ := hfirst
  cases middle with
  | nil => exact List.append_nil before
  | cons line middle =>
      obtain ⟨others, hothers⟩ := hlines
      have hsplit := hothers.trans hopening
      rw [List.append_assoc, List.append_cancel_left_eq, List.cons_append] at hsplit
      obtain ⟨rfl, hbehind⟩ := List.cons.inj hsplit
      obtain ⟨fault, hfault⟩ := hstuck (1 + before.length) middle ⟨others, hbehind⟩
      obtain ⟨ds, hread⟩ := hbefore'
      rw [readDirectives_of_stuck hothers.symm hbefore hfault] at hread
      cases hread

/-- Behind lines that are accepted there is one broken pair. -/
theorem unique (h : BrokenBehind (Text.physicalLines text) before n pair)
    (h' : BrokenBehind (Text.physicalLines text) before' n' pair') (hbefore : Accepted before)
    (hbefore' : Accepted before') : before' = before := by
  obtain ⟨opening, behind, hlines, -⟩ := h.exists_stuck
  obtain ⟨opening', behind', hlines', -⟩ := h'.exists_stuck
  have hfront : before <+: Text.physicalLines text := ⟨_, hlines.symm⟩
  have hfront' : before' <+: Text.physicalLines text := ⟨_, hlines'.symm⟩
  rcases List.prefix_or_prefix_of_prefix hfront hfront' with hfirst | hfirst
  · exact h.eq_of_isPrefix hbefore hbefore' hfront' hfirst
  · exact (h'.eq_of_isPrefix hbefore' hbefore hfront hfirst).symm

/-- What comes behind the line that breaks a pair makes no difference, if that line is ended. -/
theorem readDirectives_append_eq {opener : Opener} {got : String}
    (h : BrokenBehind (Text.physicalLines text) before n (.wrongSecond opener got))
    (hbefore : Accepted before)
    (hended : Text.Ended '\n' (String.join ((Text.physicalLines text).take n)).toList)
    (other : Text.Bytes) :
    readDirectives (Text.Utf8.encode (String.join ((Text.physicalLines text).take n)) ++ other) =
      .error (.parse n (.wrongSecond opener got)) := by
  cases h with
  | @wrongSecond opening rest second _ gap behind hlines hopens hgap hsecond hunfit =>
      -- The source is read up to that line first, and is refused there.
      have hsplit : Text.physicalLines text =
          before ++ (opening :: (gap ++ [second])) ++ behind := by
        simp [hlines]
      have htold : (Text.physicalLines text).take (before.length + gap.length + 2) =
          before ++ opening :: (gap ++ [second]) := by
        rw [hsplit]
        refine List.take_left' ?_
        simp [Nat.add_assoc]
      have hnumber : 1 + before.length + 1 + gap.length = before.length + gap.length + 2 := by omega
      have hstuck := stuck_wrongSecond hopens (1 + before.length) hgap hsecond hunfit []
      have hrefused := readDirectives_of_stuck hsplit hbefore hstuck
      rw [hnumber] at hrefused
      rw [htold] at hended ⊢
      rw [readDirectives, sourceLines_append (Text.Utf8.ended_encode hended)]
      exact readLines_append_of_error hrefused (by simp [Fault.IsCutOff]) _

end BrokenBehind

/-- **Where a fault of the root file is told.** A text that is refused has a broken pair behind some
of its physical lines, and these are accepted by themselves.

* The pair is the only one of that kind.
* The fault is told at the number of the line that breaks it, and that line is quoted; or at the
  number of its opener, if only blank lines follow.
* If a line breaks it and is itself ended, whatever comes behind that line makes no difference. -/
theorem readDirectives_broken_pair {text : String} {fault : Fault}
    (h : readDirectives (Text.Utf8.encode text) = .error fault) :
    let lines := Text.physicalLines text
    ∃ before n pair, fault = .parse n pair ∧ Accepted before ∧ BrokenBehind lines before n pair ∧
      (∀ before' n' pair', Accepted before' → BrokenBehind lines before' n' pair' →
        before' = before) ∧
      (∀ opener, pair = .cutOff opener → fault.message =
        "parse error at line " ++ toString n ++ ": " ++
          (opener.rule ++ ", but the file ends here")) ∧
      ∀ opener got, pair = .wrongSecond opener got →
        fault.message = "parse error at line " ++ toString n ++ ": " ++
          (opener.unmet ++ " (got " ++ got ++ ")") ∧
        let told := String.join (lines.take n)
        Text.Ended '\n' told.toList → ∀ other : Text.Bytes,
          readDirectives (Text.Utf8.encode told ++ other) = .error fault := by
  intro lines
  obtain ⟨before, n, pair, rfl, hbefore, hbroken⟩ := exists_brokenBehind h
  refine ⟨before, n, pair, rfl, hbefore, hbroken, fun before' n' pair' hbefore' hbroken' =>
    hbroken.unique hbroken' hbefore hbefore', ?_, ?_⟩
  · rintro opener rfl
    rfl
  · rintro opener got rfl
    exact ⟨rfl, fun hended other => hbroken.readDirectives_append_eq hbefore hended other⟩

/-- A check whose second line is an include, behind two blank lines; the opener that follows is not
reached. -/
theorem readDirectives_broken_pair_behind_gap :
    let text := "include a.mk\r\n# check go\n\n \t\ninclude b.mk\n# extern x\n"
    let told := "include a.mk\r\n# check go\n\n \t\ninclude b.mk\n"
    let fault : Fault := .parse 5 (.wrongSecond .check "include b.mk")
    readDirectives (Text.Utf8.encode text) = .error fault ∧
      fault.message =
        "parse error at line 5: line following check is not an 'equal' value (got include b.mk)" ∧
      ∀ other : Text.Bytes, readDirectives (Text.Utf8.encode told ++ other) = .error fault := by
  intro text told fault
  have hrefused : readDirectives (Text.Utf8.encode text) = .error fault := by decide
  obtain ⟨before, n, pair, hfault, -, -, -, -, hwrong⟩ := readDirectives_broken_pair hrefused
  obtain ⟨rfl, rfl⟩ : 5 = n ∧ .wrongSecond .check "include b.mk" = pair := Fault.parse.inj hfault
  obtain ⟨hmessage, hstable⟩ := hwrong .check "include b.mk" rfl
  have htold : String.join ((Text.physicalLines text).take 5) = told := by decide
  rw [htold] at hstable
  refine ⟨hrefused, hmessage, hstable (.inr ⟨told.toList.dropLast, ?_⟩)⟩
  decide

end Ensemble
