import Mathlib.Data.List.TakeWhile
import Mathlib.Data.List.Nodup
import Ensemble.Proofs.Labelling

/-!
# Ensemble.Proofs.Attribution

**Who wrote a line.** Any number of labellers write to one console, each in its own time. The main
result, `lines_attributed`, says that the console can be read all the same: at every moment it holds
whole lines, each of them stands behind one of the labels, and the lines behind a label are those
that its labeller writes when it is alone.

There are two parts to it. What each labeller asks of the console depends on its own steps only, so
the lines are a shuffle of those that the labellers write alone (`told` tells them with the numbers
of the labellers). And the tags can be told from each other, whatever stands behind them: a label
without a bar ends at the first bar, and the blanks before it are padding (`tag_append_inj`).
-/

namespace Ensemble.Labeller

/-! ### Telling tags from each other -/

/-- A label that can be told from any other one: it is one line, no bar is in it, and it does not
end with a blank that could be padding. -/
structure IsPlain (label : String) : Prop where
  bar : '|' ∉ label.toList
  lineFeed : '\n' ∉ label.toList
  blank : label.toList.getLast? ≠ some ' '

/-- The padding of a text that does not end with a blank can be taken off. -/
theorem append_blanks_inj {xs ys : List Char} {m n : Nat} (hxs : xs.getLast? ≠ some ' ')
    (hys : ys.getLast? ≠ some ' ')
    (h : xs ++ List.replicate m ' ' = ys ++ List.replicate n ' ') : xs = ys := by
  have hpadded (zs : List Char) (k : Nat) (hzs : zs.getLast? ≠ some ' ') :
      (zs ++ List.replicate k ' ').reverse.dropWhile (· == ' ') = zs.reverse := by
    rw [List.reverse_append, List.reverse_replicate, List.dropWhile_append_of_pos (by simp),
      List.dropWhile_eq_self_iff]
    intro hlength hblank
    apply hzs
    rw [← List.head?_reverse, List.head?_eq_getElem?, List.getElem?_eq_getElem hlength]
    simpa using hblank
  apply List.reverse_injective
  rw [← hpadded xs m hxs, h, hpadded ys n hys]

/-- The bytes of a tag: a label with its padding, a bar and a blank. -/
theorem encode_tagOf (label : String) (width : Nat) :
    Text.Utf8.encode (tagOf label width) =
      Text.Utf8.encode (label ++ .ofList (List.replicate (width - label.length) ' ')) ++
        [124, 32] := by
  rw [tagOf, Text.Utf8.encode_append]
  rfl

/-- What stands behind a tag and which label it is can be told from the line. -/
theorem tag_append_inj {label label' : String} (h : IsPlain label) (h' : IsPlain label')
    {width : Nat} {xs ys : Text.Bytes}
    (heq : Text.Utf8.encode (tagOf label width) ++ xs =
      Text.Utf8.encode (tagOf label' width) ++ ys) : label = label' ∧ xs = ys := by
  have hbar {label : String} (h : IsPlain label) :
      (124 : UInt8) ∉ Text.Utf8.encode
        (label ++ .ofList (List.replicate (width - label.length) ' ')) := by
    refine Text.Utf8.not_mem_encode (d := '|') (by decide) rfl ?_
    simpa using h.bar
  rw [encode_tagOf, encode_tagOf, List.append_assoc, List.append_assoc] at heq
  -- The first bar is the one of the tag.
  obtain ⟨hpadded, hrest⟩ := Text.append_cons_inj_of_not_mem heq (hbar h) (hbar h')
  have htext := congrArg Text.Utf8.decode? hpadded
  rw [Text.Utf8.decode?_encode, Text.Utf8.decode?_encode, Option.some.injEq] at htext
  have hchars := congrArg String.toList htext
  rw [String.toList_append, String.toList_append, String.toList_ofList, String.toList_ofList]
    at hchars
  exact ⟨String.toList_injective (append_blanks_inj h.blank h'.blank hchars),
    (List.cons.inj hrest).2⟩

theorem lineFeed_not_mem_tagOf {label : String} (h : IsPlain label) (width : Nat) :
    Text.lineFeed ∉ Text.Utf8.encode (tagOf label width) := by
  refine Text.Utf8.not_mem_encode (d := '\n') (by decide) rfl ?_
  simpa [tagOf] using h.lineFeed

/-- The tag of the labeller with a number, where there is one for each label. -/
def tagAt (labels : List String) (width number : Nat) : String :=
  tagOf (labels.getD number "") width

/-- The lines that stand behind a tag, without it. -/
def linesBehind (tag : String) (lines : List Text.Bytes) : List Text.Bytes :=
  lines.filterMap (·.dropPrefix? (Text.Utf8.encode tag))

/-! ### Labellers on one console -/

/-- Labellers, and the console that all of them write to. -/
structure Shared where
  labellers : List Labeller
  console : Console

/-- One of the labellers takes a step. -/
def Shared.step (s : Shared) (number : Nat) (step : Step) : Shared :=
  match s.labellers[number]? with
  | none => s
  | some l =>
    let (_, l, console) := step.perform (l, s.console)
    ⟨s.labellers.set number l, console⟩

/-- The labellers take steps in some order, told by their numbers. -/
def Shared.run (s : Shared) (schedule : List (Nat × Step)) : Shared :=
  schedule.foldl (fun s turn => s.step turn.1 turn.2) s

/-- The steps of one labeller, in order. -/
def ownSteps (number : Nat) (schedule : List (Nat × Step)) : List Step :=
  (schedule.filter (·.1 = number)).map (·.2)

/-- All lines that labellers write, in order, with the numbers of the labellers. -/
def told : List Labeller → List (Nat × Step) → List (Nat × Text.Bytes)
  | _, [] => []
  | labellers, (number, step) :: schedule =>
    match labellers[number]? with
    | none => told labellers schedule
    | some l =>
      (step.completes l.pending).map (number, ·) ++
        told (labellers.set number { l with pending := step.holds l.pending }) schedule

variable {labellers : List Labeller} {console : Console} {tag : Nat → String}

/-- What is told comes from labellers that there are, and is told line by line. -/
theorem mem_told (hpending : ∀ l ∈ labellers, Text.lineFeed ∉ l.pending)
    (schedule : List (Nat × Step)) :
    ∀ entry ∈ told labellers schedule,
      entry.1 < labellers.length ∧ Text.lineFeed ∉ entry.2 := by
  induction schedule generalizing labellers with
  | nil => simp [told]
  | cons turn schedule ih =>
      obtain ⟨number, step⟩ := turn
      rw [told]
      split
      · exact ih hpending
      · rename_i l hl
        obtain ⟨hlines, hholds⟩ := step.lineFeed_not_mem (hpending l (List.mem_of_getElem? hl))
        intro entry hentry
        rcases List.mem_append.mp hentry with hentry | hentry
        · obtain ⟨line, hline, rfl⟩ := List.mem_map.mp hentry
          exact ⟨(List.getElem?_eq_some_iff.mp hl).1, hlines line hline⟩
        · rw [← List.length_set (i := number)]
          refine ih (fun l' hl' => ?_) entry hentry
          rcases List.mem_or_eq_of_mem_set hl' with hl' | rfl
          · exact hpending l' hl'
          · exact hholds

theorem Shared.step_of_neverRefuses {number : Nat} {l : Labeller}
    (hl : labellers[number]? = some l) (hc : console.NeverRefuses) (step : Step) :
    Shared.step ⟨labellers, console⟩ number step =
      ⟨labellers.set number { l with pending := step.holds l.pending },
        console.granting (requests l.tag (step.completes l.pending))⟩ := by
  simp only [Shared.step, hl, Step.perform_of_neverRefuses step l hc]

/-- What labellers write together is what is told of them. -/
theorem stored_run (htag : ∀ {number l}, labellers[number]? = some l → l.tag = tag number)
    (hc : console.NeverRefuses) (schedule : List (Nat × Step)) :
    (Shared.run ⟨labellers, console⟩ schedule).console.stored =
      console.stored ++
        (told labellers schedule).map fun entry => lineBytes (tag entry.1) entry.2 := by
  induction schedule generalizing labellers console with
  | nil => simp [Shared.run, told]
  | cons turn schedule ih =>
      obtain ⟨number, step⟩ := turn
      rw [Shared.run, List.foldl_cons, ← Shared.run, told]
      cases hl : labellers[number]? with
      | none =>
          simp only [Shared.step, hl]
          exact ih htag hc
      | some l =>
          rw [Shared.step_of_neverRefuses hl hc, ih _ (hc.granting _)]
          · simp [Console.granting, htag hl]
          · -- The labeller that took the step still has its tag.
            intro other l' hl'
            by_cases hother : number = other
            · subst hother
              rw [List.getElem?_set_self (List.getElem?_eq_some_iff.mp hl).1] at hl'
              obtain rfl := Option.some.inj hl'
              exact (htag hl :)
            · rw [List.getElem?_set_ne hother] at hl'
              exact htag hl'

/-- Lines that are told with one number are all those of this number, and none of another. -/
theorem filter_numbered (number other : Nat) (lines : List Text.Bytes) :
    (lines.map (other, ·)).filter (·.1 = number) =
      if other = number then lines.map (other, ·) else [] := by
  split <;> rename_i h <;> simp [h]

/-- What one of them writes alone is what is told of it. -/
theorem stored_ownSteps {number : Nat} {l : Labeller} (hl : labellers[number]? = some l)
    (hc : console.NeverRefuses) (schedule : List (Nat × Step)) :
    (afterAll (ownSteps number schedule) (l, console)).2.stored =
      console.stored ++
        ((told labellers schedule).filter (·.1 = number)).map fun entry =>
          lineBytes l.tag entry.2 := by
  induction schedule generalizing labellers console l with
  | nil => simp [ownSteps, told]
  | cons turn schedule ih =>
      obtain ⟨other, step⟩ := turn
      by_cases hother : other = number
      · subst hother
        have hlt := (List.getElem?_eq_some_iff.mp hl).1
        rw [ownSteps, List.filter_cons_of_pos (by simp), List.map_cons, ← ownSteps, afterAll_cons,
          Step.perform_of_neverRefuses step l hc,
          ih (List.getElem?_set_self hlt) (hc.granting _)]
        simp [told, hl, Console.granting, filter_numbered]
      · -- A step of another labeller is none of its own, and adds none of its lines.
        rw [ownSteps, List.filter_cons_of_neg (by simpa using hother), ← ownSteps, told]
        cases hl' : labellers[other]? with
        | none => exact ih hl hc
        | some l' =>
            dsimp only
            rw [ih ((List.getElem?_set_ne hother).trans hl) hc, List.filter_append,
              filter_numbered, if_neg hother, List.nil_append]

/-! ### Reading the console -/

/-- Lines behind tags without line feeds are the lines that they are stored as. -/
theorem isCut_told {entries : List (Nat × Text.Bytes)}
    (h : ∀ entry ∈ entries,
      Text.lineFeed ∉ Text.Utf8.encode (tag entry.1) ∧ Text.lineFeed ∉ entry.2) :
    Text.IsCut Text.lineFeed (entries.map fun entry => lineBytes (tag entry.1) entry.2).flatten
      (entries.map fun entry => Text.Utf8.encode (tag entry.1) ++ entry.2) [] where
  eq := by simp [List.flatMap_def, lineBytes, Function.comp_def]
  not_mem_line := by
    intro line hline
    obtain ⟨entry, hentry, rfl⟩ := List.mem_map.mp hline
    obtain ⟨htag, hrest⟩ := h entry hentry
    simp [htag, hrest]
  not_mem_rest := List.not_mem_nil

variable {labels : List String} {width : Nat}

/-- A line that is told stands behind the label of its labeller, and behind no other. -/
theorem existsUnique_label (hplain : ∀ label ∈ labels, IsPlain label) {label : String}
    (hlabel : label ∈ labels) (line : Text.Bytes) :
    ∃! label', label' ∈ labels ∧
      Text.Utf8.encode (tagOf label' width) <+: Text.Utf8.encode (tagOf label width) ++ line := by
  refine ⟨label, ⟨hlabel, List.prefix_append _ _⟩, ?_⟩
  rintro label' ⟨hlabel', rest, hrest⟩
  exact (tag_append_inj (hplain label' hlabel') (hplain label hlabel) hrest).1

/-- What is told with a number is what can be read behind its label. -/
theorem linesBehind_told (hdistinct : labels.Nodup) (hplain : ∀ label ∈ labels, IsPlain label)
    {number : Nat} {label : String} (hlabel : labels[number]? = some label)
    {entries : List (Nat × Text.Bytes)} (h : ∀ entry ∈ entries, entry.1 < labels.length) :
    linesBehind (tagOf label width)
        (entries.map fun entry => Text.Utf8.encode (tagAt labels width entry.1) ++ entry.2) =
      (entries.filter (·.1 = number)).map (·.2) := by
  obtain ⟨hnumber, hget⟩ := List.getElem?_eq_some_iff.mp hlabel
  induction entries with
  | nil => rfl
  | cons entry entries ih =>
      have hentry := h entry List.mem_cons_self
      have htag : tagAt labels width entry.1 = tagOf labels[entry.1] width := by
        simp [tagAt, hentry]
      have ih := ih fun e he => h e (List.mem_cons_of_mem _ he)
      rw [linesBehind] at ih ⊢
      rw [List.map_cons, List.filterMap_cons, ih, htag]
      by_cases hown : entry.1 = number
      · subst hown
        rw [hget, List.dropPrefix?_append_of_beq _ (beq_self_eq_true _),
          List.filter_cons_of_pos (by simp), List.map_cons]
      · -- Another label is no other spelling of this one, so its tag does not begin the line.
        have hnone : (Text.Utf8.encode (tagOf labels[entry.1] width) ++ entry.2).dropPrefix?
            (Text.Utf8.encode (tagOf label width)) = none := by
          rw [Option.eq_none_iff_forall_ne_some]
          intro rest hrest
          obtain ⟨front, hfront, hbeq⟩ := List.dropPrefix?_eq_some_iff.mp hrest
          obtain rfl := eq_of_beq hbeq
          have hsame := (tag_append_inj (hplain _ (List.getElem_mem hentry))
            (hplain label (List.mem_of_getElem? hlabel)) hfront).1
          exact hown ((hdistinct.getElem_inj_iff).mp (hsame.trans hget.symm))
        rw [hnone, List.filter_cons_of_neg (by simpa using hown)]

/-- A labeller for each label. -/
def newAll (labels : List String) (width : Nat) : List Labeller :=
  labels.map fun label => { tag := tagOf label width }

theorem mapM_new? (hwidth : width ≤ maxLabelWidth) (labels : List String) :
    labels.mapM (new? · width) = some (newAll labels width) := by
  induction labels with
  | nil => rfl
  | cons label labels ih =>
      rw [List.mapM_cons, ih, new?, if_pos hwidth]
      rfl

theorem tag_eq_of_newAll {number : Nat} {l : Labeller}
    (h : (newAll labels width)[number]? = some l) : l.tag = tagAt labels width number := by
  rw [newAll, List.getElem?_map] at h
  obtain ⟨label, hlabel, rfl⟩ := Option.map_eq_some_iff.mp h
  simp [tagAt, hlabel]

/-- **Every line has its writer.** One labeller for each of some labels, which are distinct and can
be told from each other, all on one console that never refuses. They take steps in any order, and
then:

* at every moment on the way, also between the lines of one step, the console holds whole lines
  only, and each begins with the tag of exactly one label;
* the lines behind the tag of a label are, in order, those that its labeller has written when it
  has taken its own steps alone. -/
theorem lines_attributed (hdistinct : labels.Nodup) (hplain : ∀ label ∈ labels, IsPlain label)
    (hwidth : width ≤ maxLabelWidth) (hc : console.NeverRefuses) (hempty : console.stored = []) :
    ∃ labellers, labels.mapM (new? · width) = some labellers ∧
      ∀ schedule,
        let after := Shared.run ⟨labellers, console⟩ schedule
        (∀ held, held <+: after.console.stored →
          ∃ lines, Text.IsCut Text.lineFeed held.flatten lines [] ∧
            ∀ line ∈ lines, ∃! label, label ∈ labels ∧
              Text.Utf8.encode (tagOf label width) <+: line) ∧
        ∃ lines, Text.IsCut Text.lineFeed after.console.bytes lines [] ∧
          ∀ (number : Nat) (label : String) (l : Labeller), labels[number]? = some label →
            labellers[number]? = some l →
            (afterAll (ownSteps number schedule) (l, console)).2.bytes =
              (linesBehind (tagOf label width) lines).flatMap fun line =>
                Text.Utf8.encode (tagOf label width) ++ line ++ [Text.lineFeed] := by
  refine ⟨_, mapM_new? hwidth labels, fun schedule => ?_⟩
  have htold : ∀ entry ∈ told (newAll labels width) schedule,
      entry.1 < labels.length ∧ Text.lineFeed ∉ entry.2 := by
    intro entry hentry
    simpa [newAll] using mem_told (by simp [newAll]) schedule entry hentry
  have hlabel : ∀ entry ∈ told (newAll labels width) schedule,
      labels.getD entry.1 "" ∈ labels := by
    intro entry hentry
    simp [(htold entry hentry).1]
  have hlines : ∀ entry ∈ told (newAll labels width) schedule,
      Text.lineFeed ∉ Text.Utf8.encode (tagAt labels width entry.1) ∧
        Text.lineFeed ∉ entry.2 := by
    intro entry hentry
    exact ⟨lineFeed_not_mem_tagOf (hplain _ (hlabel entry hentry)) width, (htold entry hentry).2⟩
  have htag : ∀ {number l}, (newAll labels width)[number]? = some l →
      l.tag = tagAt labels width number := tag_eq_of_newAll
  have hstored := stored_run htag hc schedule
  rw [hempty, List.nil_append] at hstored
  intro after
  constructor
  · intro held hheld
    rw [hstored, List.prefix_map_iff] at hheld
    obtain ⟨entries, hentries, rfl⟩ := hheld
    refine ⟨_, isCut_told fun entry hentry => hlines entry (hentries.subset hentry), ?_⟩
    intro line hline
    obtain ⟨entry, hentry, rfl⟩ := List.mem_map.mp hline
    exact existsUnique_label hplain (hlabel entry (hentries.subset hentry)) entry.2
  · have hcut := isCut_told hlines
    rw [← hstored] at hcut
    refine ⟨_, hcut, fun number label l hlabel hl => ?_⟩
    have htagOf : l.tag = tagOf label width := by
      rw [htag hl]
      simp [tagAt, hlabel]
    have halone := stored_ownSteps hl hc schedule
    rw [hempty, List.nil_append, htagOf] at halone
    rw [linesBehind_told hdistinct hplain hlabel fun entry hentry => (htold entry hentry).1,
      Console.bytes, halone]
    simp [List.flatMap_def, lineBytes, Function.comp_def]

/-- A line that looks like another's is told from it, and a line in two pieces is not torn. -/
theorem lines_attributed_imitation :
    let labels := ["api", "worker"]
    let imitation := Text.Utf8.encode "worker      | a"
    labels.Nodup ∧ (∀ label ∈ labels, IsPlain label) ∧ 12 ≤ maxLabelWidth ∧
      Console.sound.NeverRefuses ∧ Console.sound.stored = [] ∧
      ∃ labellers, labels.mapM (new? · 12) = some labellers ∧
        ∃ lines,
          Text.IsCut Text.lineFeed
            (Shared.run ⟨labellers, .sound⟩
              [(0, .write imitation), (1, .write [98, 10]), (0, .finish)]).console.bytes lines [] ∧
          (afterAll [.write imitation, .finish] ({ tag := tagOf "api" 12 }, .sound)).2.bytes =
            (linesBehind (tagOf "api" 12) lines).flatMap fun line =>
              Text.Utf8.encode (tagOf "api" 12) ++ line ++ [Text.lineFeed] := by
  intro labels imitation
  have hdistinct : labels.Nodup := by decide
  have hplain : ∀ label ∈ labels, IsPlain label := by
    intro label hlabel
    rcases List.mem_pair.mp hlabel with rfl | rfl <;> exact ⟨by decide, by decide, by decide⟩
  have hwidth : 12 ≤ maxLabelWidth := by decide
  refine ⟨hdistinct, hplain, hwidth, Console.neverRefuses_sound, rfl, ?_⟩
  obtain ⟨labellers, hlabellers, hrun⟩ :=
    lines_attributed hdistinct hplain hwidth Console.neverRefuses_sound rfl
  obtain ⟨-, lines, hcut, halone⟩ :=
    hrun [(0, .write imitation), (1, .write [98, 10]), (0, .finish)]
  obtain rfl : newAll labels 12 = labellers :=
    Option.some.inj ((mapM_new? hwidth labels).symm.trans hlabellers)
  exact ⟨_, hlabellers, lines, hcut, halone 0 "api" _ rfl rfl⟩

end Ensemble.Labeller
