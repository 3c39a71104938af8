import Mathlib.Data.List.Forall2
import Ensemble.Transcript

/-!
# Ensemble.Proofs.Labelling

**What a labeller writes.** A labeller is used step by step: it is given chunks, and now and then
told that the command is over. The main result is the **chunking law** (`chunking_law`): on a
console that never refuses, what has been written and what is held back depend on the *segments* of
the history alone, the bytes given between one finish and the next, and not on how these were cut
into chunks or on the streams they came from.

The proof has two layers. What one step asks of its console is a list of requests, said for every
console, the refusing ones too (`perform_eq_serveAll`). On a console that never refuses all of them
are granted, and then `Follows` is the invariant that ties the state to the whole history: it is
kept by a step because a cut into lines can be continued (`IsCut.append`).
-/

namespace Ensemble

/-! ### Cuts into lines -/

namespace Text

/-- `xs` consists of lines, each ended by the separator, and of a rest behind them in which there
is no further separator. -/
structure IsCut (sep : α) (xs : List α) (lines : List (List α)) (rest : List α) : Prop where
  eq : xs = lines.flatMap (· ++ [sep]) ++ rest
  not_mem_line : ∀ line ∈ lines, sep ∉ line
  not_mem_rest : sep ∉ rest

variable {sep : α} {xs ys rest rest' : List α} {lines lines' : List (List α)}

theorem isCut_nil (sep : α) : IsCut sep [] [] [] :=
  ⟨rfl, by simp, by simp⟩

/-- What comes later is cut together with the rest before it. -/
theorem IsCut.append (h : IsCut sep xs lines rest) (h' : IsCut sep (rest ++ ys) lines' rest') :
    IsCut sep (xs ++ ys) (lines ++ lines') rest' where
  eq := by
    rw [h.eq, List.append_assoc, h'.eq]
    simp
  not_mem_line := by
    intro line hline
    rcases List.mem_append.mp hline with hl | hl
    · exact h.not_mem_line line hl
    · exact h'.not_mem_line line hl
  not_mem_rest := h'.not_mem_rest

/-- There is only one way to cut a sequence into lines. -/
theorem IsCut.unique [DecidableEq α] (h : IsCut sep xs lines rest)
    (h' : IsCut sep xs lines' rest') :
    lines = lines' ∧ rest = rest' := by
  induction lines generalizing lines' xs with
  | nil =>
      have hxs : sep ∉ xs := by simpa [h.eq] using h.not_mem_rest
      cases lines' with
      | nil => exact ⟨rfl, by simpa [h.eq] using h'.eq⟩
      | cons line lines' => exact absurd (by simp [h'.eq]) hxs
  | cons line lines ih =>
      have hline := h.not_mem_line line (by simp)
      cases lines' with
      | nil =>
          have hxs : sep ∉ xs := by simpa [h'.eq] using h'.not_mem_rest
          exact absurd (by simp [h.eq]) hxs
      | cons line' lines' =>
          have heq := h.eq.symm.trans h'.eq
          simp only [List.flatMap_cons, List.append_assoc, List.cons_append, List.nil_append] at heq
          -- Both first lines end at the first separator there is.
          obtain ⟨rfl, htail⟩ :=
            append_cons_inj_of_not_mem heq hline (h'.not_mem_line line' (by simp))
          obtain ⟨rfl, rfl⟩ := ih
            ⟨rfl, fun l hl => h.not_mem_line l (List.mem_cons_of_mem _ hl), h.not_mem_rest⟩
            ⟨htail, fun l hl => h'.not_mem_line l (List.mem_cons_of_mem _ hl), h'.not_mem_rest⟩
          exact ⟨rfl, rfl⟩

/-- Pieces joined by separators, seen as lines and a rest. -/
theorem joinBetween_eq_flatMap (sep : α) (head : List α) (tail : List (List α)) :
    joinBetween sep (head, tail) =
      (head :: tail).dropLast.flatMap (· ++ [sep]) ++ (head :: tail).getLast (by simp) := by
  induction tail generalizing head with
  | nil => simp [joinBetween]
  | cons piece tail ih =>
      have := ih piece
      simp only [joinBetween] at this
      simp [joinBetween, this]

end Text

namespace Labeller

/-- A labeller cuts bytes into the lines they complete and a rest. -/
theorem isCut_completeLines (bytes : Text.Bytes) :
    Text.IsCut Text.lineFeed bytes (completeLines bytes).1 (completeLines bytes).2 := by
  obtain ⟨head, tail, hcut⟩ :
      ∃ head tail, Text.cutBetween Text.lineFeed bytes = (head, tail) := ⟨_, _, rfl⟩
  have hpieces : ∀ piece, piece = (Text.cutBetween Text.lineFeed bytes).1 ∨
      piece ∈ (Text.cutBetween Text.lineFeed bytes).2 → Text.lineFeed ∉ piece :=
    fun piece hp => Text.not_mem_of_mem_cutBetween hp
  rw [hcut] at hpieces
  have hfree : ∀ piece ∈ head :: tail, Text.lineFeed ∉ piece :=
    fun piece hp => hpieces piece (List.mem_cons.mp hp)
  simp only [completeLines, hcut]
  refine ⟨?_, ?_, ?_⟩
  · rw [← Text.joinBetween_eq_flatMap, ← hcut, Text.joinBetween_cutBetween]
  · intro line hline
    exact hfree line (List.dropLast_subset _ hline)
  · exact hfree _ (List.getLast_mem _)

end Labeller

/-! ### Requests to a console -/

namespace Console

/-- What can be asked of a console. -/
inductive Request
  | write (bytes : Text.Bytes)
  | flush
deriving DecidableEq, Repr

/-- The bytes that a request wants to be stored. -/
def Request.bytes? : Request → Option Text.Bytes
  | .write bytes => some bytes
  | .flush => none

/-- Make one request. -/
def serve (c : Console) : Request → Except IoFault Unit × Console
  | .write bytes => c.write bytes
  | .flush => c.flush

/-- Make requests in order, up to the first that is refused. -/
def serveAll : List Request → Console → Except IoFault Unit × Console
  | [], c => (.ok (), c)
  | q :: qs, c =>
    match c.serve q with
    | (.ok (), c) => serveAll qs c
    | (.error e, c) => (.error e, c)

/-- A console that never refuses. -/
structure NeverRefuses (c : Console) : Prop where
  write : ∀ n, c.refusesWrite n = false
  flush : ∀ n, c.refusesFlush n = false

theorem neverRefuses_sound : sound.NeverRefuses :=
  ⟨fun _ => rfl, fun _ => rfl⟩

/-- The console after requests that were all granted. -/
def granting (qs : List Request) (c : Console) : Console :=
  { c with
    writes := c.writes + (qs.filterMap Request.bytes?).length
    flushes := c.flushes + qs.count .flush
    stored := c.stored ++ qs.filterMap Request.bytes? }

theorem NeverRefuses.granting {c : Console} (h : c.NeverRefuses) (qs : List Request) :
    (c.granting qs).NeverRefuses :=
  ⟨h.write, h.flush⟩

theorem serve_of_neverRefuses {c : Console} (h : c.NeverRefuses) (q : Request) :
    c.serve q = (.ok (), c.granting [q]) := by
  cases q with
  | write bytes => simp [serve, Console.write, granting, h.write, Request.bytes?]
  | flush => simp [serve, Console.flush, granting, h.flush, Request.bytes?]

theorem granting_cons (q : Request) (qs : List Request) (c : Console) :
    c.granting (q :: qs) = (c.granting [q]).granting qs := by
  cases q <;> simp [granting, List.filterMap_cons, Request.bytes?] <;> omega

/-- A console that never refuses grants everything. -/
theorem serveAll_of_neverRefuses {c : Console} (h : c.NeverRefuses) (qs : List Request) :
    c.serveAll qs = (.ok (), c.granting qs) := by
  induction qs generalizing c with
  | nil => simp [serveAll, granting]
  | cons q qs ih =>
      rw [serveAll, serve_of_neverRefuses h q]
      dsimp only
      rw [ih (h.granting [q]), ← granting_cons]

end Console

namespace Labeller

/-- What passing on lines asks of the console: the lines, and a flush behind them if there are
any. -/
def requests (tag : String) (lines : List Text.Bytes) : List Console.Request :=
  lines.map (fun line => .write (lineBytes tag line)) ++ if lines = [] then [] else [.flush]

theorem writeLines_andThen (tag : String) (lines : List Text.Bytes) (qs : List Console.Request)
    (c : Console) :
    c.serveAll (lines.map (fun line => .write (lineBytes tag line)) ++ qs) =
      match writeLines tag lines c with
      | (.ok (), c) => c.serveAll qs
      | (.error e, c) => (.error e, c) := by
  induction lines generalizing c with
  | nil => rfl
  | cons line lines ih =>
      simp only [List.map_cons, List.cons_append, Console.serveAll, Console.serve, writeLines]
      split <;> simp_all

/-- Lines are passed on by making these requests, whatever the console refuses. -/
theorem passOn_eq_serveAll (tag : String) (lines : List Text.Bytes) (c : Console) :
    passOn tag lines c = c.serveAll (requests tag lines) := by
  cases lines with
  | nil => rfl
  | cons line lines =>
      rw [requests, if_neg (by simp), writeLines_andThen, passOn]
      · obtain ⟨result, c', hwritten⟩ :
            ∃ result c', writeLines tag (line :: lines) c = (result, c') := ⟨_, _, rfl⟩
        rw [hwritten]
        cases result with
        | error e => rfl
        | ok =>
            obtain ⟨flushed, c'', hflushed⟩ : ∃ flushed c'', c'.flush = (flushed, c'') :=
              ⟨_, _, rfl⟩
            simp only [Console.serveAll, Console.serve, hflushed]
            cases flushed <;> rfl
      · simp

@[simp] theorem filterMap_requests (tag : String) (lines : List Text.Bytes) :
    (requests tag lines).filterMap Console.Request.bytes? = lines.map (lineBytes tag) := by
  unfold requests
  rw [List.filterMap_append, List.filterMap_map]
  split <;> simp [Console.Request.bytes?, Function.comp_def]

@[simp] theorem count_flush_requests (tag : String) (lines : List Text.Bytes) :
    (requests tag lines).count .flush = if lines = [] then 0 else 1 := by
  unfold requests
  have hw :
      (lines.map fun line => Console.Request.write (lineBytes tag line)).count .flush = 0 := by
    simp [List.count_eq_zero]
  rw [List.count_append, hw]
  split <;> simp

/-! ### Steps -/

/-- A use of a labeller. -/
inductive Step
  /-- Bytes are written. -/
  | write (bytes : Text.Bytes)
  /-- A chunk of a command's output is offered, which comes from one of its streams. -/
  | offer (chunk : Chunk)
  /-- The command is over. -/
  | finish
deriving DecidableEq, Repr

namespace Step

/-- Carry out a step. A write answers with a number of bytes. -/
def perform (step : Step) (s : Labeller × Console) :
    Except IoFault (Option Nat) × Labeller × Console :=
  match step with
  | .write bytes =>
    let (result, s) := s.1.write bytes s.2
    (result.map some, s)
  | .offer chunk =>
    let (result, s) := Sink.labelled.offer s chunk
    (result.map fun () => none, s)
  | .finish =>
    let (result, s) := Sink.labelled.finish s
    (result.map fun () => none, s)

/-- The answer of a step that does not fail. -/
def reply : Step → Option Nat
  | .write bytes => some bytes.length
  | .offer _ | .finish => none

/-- The lines that a step completes while `pending` is held back. -/
def completes (pending : Text.Bytes) : Step → List Text.Bytes
  | .write bytes => (completeLines (pending ++ bytes)).1
  | .offer chunk => (completeLines (pending ++ chunk.bytes)).1
  | .finish => if pending = [] then [] else [pending]

/-- What is held back after a step. -/
def holds (pending : Text.Bytes) : Step → Text.Bytes
  | .write bytes => (completeLines (pending ++ bytes)).2
  | .offer chunk => (completeLines (pending ++ chunk.bytes)).2
  | .finish => []

/-- A step completes lines and holds back what is no line. -/
theorem lineFeed_not_mem {pending : Text.Bytes} (h : Text.lineFeed ∉ pending) (step : Step) :
    (∀ line ∈ step.completes pending, Text.lineFeed ∉ line) ∧
      Text.lineFeed ∉ step.holds pending := by
  cases step with
  | write bytes =>
      have hcut := isCut_completeLines (pending ++ bytes)
      exact ⟨hcut.not_mem_line, hcut.not_mem_rest⟩
  | offer chunk =>
      have hcut := isCut_completeLines (pending ++ chunk.bytes)
      exact ⟨hcut.not_mem_line, hcut.not_mem_rest⟩
  | finish =>
      refine ⟨fun line hline => ?_, List.not_mem_nil⟩
      simp only [completes] at hline
      split at hline
      · cases hline
      · obtain rfl := List.mem_singleton.mp hline
        exact h

/-- **What a step does**, whatever the console refuses: it asks for the lines that it completes and
a flush, and goes on with what stands behind them. -/
theorem perform_eq_serveAll (step : Step) (l : Labeller) (c : Console) :
    step.perform (l, c) =
      ((c.serveAll (requests l.tag (step.completes l.pending))).1.map fun () => step.reply,
        { l with pending := step.holds l.pending },
        (c.serveAll (requests l.tag (step.completes l.pending))).2) := by
  cases step with
  | write bytes =>
      simp only [perform, Labeller.write, passOn_eq_serveAll, completes, holds, reply]
      cases (c.serveAll _).1 <;> rfl
  | offer chunk =>
      simp only [perform, Sink.labelled, Labeller.write, passOn_eq_serveAll, completes, holds,
        reply]
      cases (c.serveAll _).1 <;> rfl
  | finish =>
      simp only [perform, Sink.labelled, Labeller.finish, passOn_eq_serveAll, completes, holds,
        reply]

/-- A step on a console that never refuses. -/
theorem perform_of_neverRefuses (step : Step) (l : Labeller) {c : Console} (hc : c.NeverRefuses) :
    step.perform (l, c) =
      (.ok step.reply, { l with pending := step.holds l.pending },
        c.granting (requests l.tag (step.completes l.pending))) := by
  rw [perform_eq_serveAll, Console.serveAll_of_neverRefuses hc]
  rfl

end Step

/-- The state after some steps. -/
def afterAll (steps : List Step) (s : Labeller × Console) : Labeller × Console :=
  steps.foldl (fun s step => (step.perform s).2) s

@[simp] theorem afterAll_nil (s : Labeller × Console) : afterAll [] s = s := rfl

@[simp] theorem afterAll_cons (step : Step) (steps : List Step) (s : Labeller × Console) :
    afterAll (step :: steps) s = afterAll steps (step.perform s).2 := rfl

/-! ### The chunking law -/

/-- The segments of a history: the bytes before each finish, and those since the last one. -/
structure Segments where
  finished : List Text.Bytes := []
  unfinished : Text.Bytes := []
deriving DecidableEq, Repr

namespace Segments

/-- A history goes on with a step. -/
def extend (h : Segments) : Step → Segments
  | .write bytes => { h with unfinished := h.unfinished ++ bytes }
  | .offer chunk => { h with unfinished := h.unfinished ++ chunk.bytes }
  | .finish => { finished := h.finished ++ [h.unfinished], unfinished := [] }

/-- The segments of a list of steps. -/
def ofSteps (steps : List Step) : Segments :=
  steps.foldl extend {}

end Segments

/-- The lines that a finished segment amounts to, cut into lines and a rest: the rest counts as a
line unless it is empty. -/
def closedLines (cut : List Text.Bytes × Text.Bytes) : List Text.Bytes :=
  cut.1 ++ if cut.2 = [] then [] else [cut.2]

/-- What has become of a history: every finished segment has been written to the end, the
unfinished one as far as its lines go, and its rest is held back. -/
structure Follows (tag : String) (before : Console) (h : Segments) (s : Labeller × Console) :
    Prop where
  tag_eq : s.1.tag = tag
  neverRefuses : s.2.NeverRefuses
  stored : ∃ cuts lines,
    List.Forall₂ (fun segment cut => Text.IsCut Text.lineFeed segment cut.1 cut.2)
      h.finished cuts ∧
    Text.IsCut Text.lineFeed h.unfinished lines s.1.pending ∧
    s.2.stored = before.stored ++ (cuts.flatMap closedLines ++ lines).map (lineBytes tag)

variable {tag : String} {before c : Console} {h : Segments} {l : Labeller} {s : Labeller × Console}

theorem follows_start (hc : before.NeverRefuses) :
    Follows tag before {} ({ tag := tag }, before) where
  tag_eq := rfl
  neverRefuses := hc
  stored := ⟨[], [], .nil, Text.isCut_nil _, by simp⟩

/-- Bytes that are given to a labeller continue the cut of the unfinished segment. -/
theorem Follows.given (hs : Follows tag before h (l, c)) (bytes : Text.Bytes) :
    Follows tag before { h with unfinished := h.unfinished ++ bytes }
      ({ l with pending := (completeLines (l.pending ++ bytes)).2 },
        c.granting (requests l.tag (completeLines (l.pending ++ bytes)).1)) where
  tag_eq := hs.tag_eq
  neverRefuses := hs.neverRefuses.granting _
  stored := by
    obtain ⟨cuts, lines, hcuts, hcut, hstored⟩ := hs.stored
    refine ⟨cuts, lines ++ (completeLines (l.pending ++ bytes)).1, hcuts,
      hcut.append (isCut_completeLines _), ?_⟩
    have htag : l.tag = tag := hs.tag_eq
    dsimp only at hstored
    simp [Console.granting, hstored, htag]

/-- A finish closes the unfinished segment. -/
theorem Follows.finished (hs : Follows tag before h (l, c)) :
    Follows tag before { finished := h.finished ++ [h.unfinished], unfinished := [] }
      ({ l with pending := [] },
        c.granting (requests l.tag (if l.pending = [] then [] else [l.pending]))) where
  tag_eq := hs.tag_eq
  neverRefuses := hs.neverRefuses.granting _
  stored := by
    obtain ⟨cuts, lines, hcuts, hcut, hstored⟩ := hs.stored
    refine ⟨cuts ++ [(lines, l.pending)], [], ?_, Text.isCut_nil _, ?_⟩
    · exact List.rel_append hcuts (.cons hcut .nil)
    · have htag : l.tag = tag := hs.tag_eq
      dsimp only at hstored
      simp [Console.granting, hstored, htag, closedLines]

/-- One step keeps the invariant. -/
theorem Follows.step (hs : Follows tag before h s) (step : Step) :
    Follows tag before (h.extend step) (step.perform s).2 := by
  obtain ⟨l, c⟩ := s
  rw [Step.perform_of_neverRefuses step l hs.neverRefuses]
  cases step with
  | write bytes => exact hs.given bytes
  | offer chunk => exact hs.given chunk.bytes
  | finish => exact hs.finished

/-- Any number of steps keep the invariant. -/
theorem Follows.run (hs : Follows tag before h s) (steps : List Step) :
    Follows tag before (steps.foldl Segments.extend h) (afterAll steps s) := by
  induction steps generalizing h s with
  | nil => exact hs
  | cons step steps ih => exact ih (hs.step step)

/-- The history determines what has been written and what is held back. -/
theorem Follows.unique {s' : Labeller × Console} (hs : Follows tag before h s)
    (hs' : Follows tag before h s') :
    s.2.stored = s'.2.stored ∧ s.1.pending = s'.1.pending := by
  obtain ⟨cuts, lines, hcuts, hcut, hstored⟩ := hs.stored
  obtain ⟨cuts', lines', hcuts', hcut', hstored'⟩ := hs'.stored
  -- The cuts were only said to exist, but there is one for each segment.
  obtain ⟨rfl, hpending⟩ := hcut.unique hcut'
  have hcutsEq : cuts = cuts' :=
    List.right_unique_forall₂'
      (fun _ _ _ hc hc' => Prod.ext (hc.unique hc').1 (hc.unique hc').2) hcuts hcuts'
  subst hcutsEq
  exact ⟨hstored.trans hstored'.symm, hpending⟩

/-- **Chunking law.** A labeller on a console that never refuses, after any steps:

* what it has written is, for every finished segment in order, each of its lines and then its rest
  unless that is empty, and for the unfinished segment its lines, each behind the label and ended
  by a line feed; held back is exactly the rest of the unfinished segment;
* two lists of steps with the same segments therefore write the same bytes and hold back the same,
  however the segments are cut into chunks and whichever streams these come from;
* every further step succeeds, a write with the length of its bytes, and asks its console (any
  console in the place of this one) for some lines and behind them for one flush, or for nothing
  at all if there is no line. -/
theorem chunking_law (label : String) {width : Nat} (hw : width ≤ maxLabelWidth) {console : Console}
    (hc : console.NeverRefuses) :
    ∃ l, new? label width = some l ∧
      (∀ steps, ∃ cuts lines,
        List.Forall₂ (fun segment cut => Text.IsCut Text.lineFeed segment cut.1 cut.2)
          (Segments.ofSteps steps).finished cuts ∧
        Text.IsCut Text.lineFeed (Segments.ofSteps steps).unfinished lines
          (afterAll steps (l, console)).1.pending ∧
        (afterAll steps (l, console)).2.bytes = console.bytes ++
          (cuts.flatMap closedLines ++ lines).flatMap fun line =>
            Text.Utf8.encode (tagOf label width) ++ line ++ [Text.lineFeed]) ∧
      (∀ steps steps', Segments.ofSteps steps = Segments.ofSteps steps' →
        (afterAll steps (l, console)).2.bytes = (afterAll steps' (l, console)).2.bytes ∧
        (afterAll steps (l, console)).1.pending = (afterAll steps' (l, console)).1.pending) ∧
      ∀ (steps : List Step) (step : Step), ∃ lines : List Text.Bytes,
        let (l', c') := afterAll steps (l, console)
        (step.perform (l', c')).1 = .ok step.reply ∧
        (step.perform (l', c')).2.2.stored =
          c'.stored ++ lines.map (lineBytes (tagOf label width)) ∧
        (step.perform (l', c')).2.2.flushes = c'.flushes + (if lines = [] then 0 else 1) ∧
        ∀ other : Console, (step.perform (l', other)).2.2 =
          (other.serveAll (lines.map (fun line => .write (lineBytes (tagOf label width) line)) ++
            if lines = [] then [] else [.flush])).2 := by
  have hl : new? label width = some { tag := tagOf label width } := if_pos hw
  have hrun : ∀ steps, Follows (tagOf label width) console (Segments.ofSteps steps)
      (afterAll steps ({ tag := tagOf label width }, console)) :=
    fun steps => (follows_start hc).run steps
  refine ⟨_, hl, ?_, ?_, ?_⟩
  · intro steps
    obtain ⟨cuts, lines, hcuts, hcut, hstored⟩ := (hrun steps).stored
    refine ⟨cuts, lines, hcuts, hcut, ?_⟩
    simp only [Console.bytes, hstored, List.flatten_append, List.flatMap_def]
    rfl
  · intro steps steps' hsame
    obtain ⟨hstored, hpending⟩ := (hsame ▸ hrun steps).unique (hrun steps')
    exact ⟨congrArg List.flatten hstored, hpending⟩
  · intro steps step
    obtain ⟨htag, hsound, -⟩ := hrun steps
    generalize afterAll steps ({ tag := tagOf label width }, console) = s at htag hsound
    obtain ⟨l', c'⟩ := s
    refine ⟨step.completes l'.pending, ?_, ?_, ?_, ?_⟩
    · rw [Step.perform_of_neverRefuses step l' hsound]
    · rw [Step.perform_of_neverRefuses step l' hsound]
      simp [Console.granting, ← htag]
    · rw [Step.perform_of_neverRefuses step l' hsound]
      simp [Console.granting]
    · -- What a step asks for depends on the labeller alone, so it is asked of any console.
      intro other
      rw [Step.perform_eq_serveAll]
      simp [requests, ← htag]

/-- The chunking law at work: cut otherwise, and come from two streams, the same bytes are written
in the same way. -/
theorem chunking_law_two_streams :
    12 ≤ maxLabelWidth ∧ Console.sound.NeverRefuses ∧
      ∃ l, new? "api" 12 = some l ∧
        (afterAll [.write [97, 10, 98], .finish] (l, .sound)).2.bytes =
          (afterAll [.offer ⟨.err, [97]⟩, .offer ⟨.out, [10, 98]⟩, .finish] (l, .sound)).2.bytes := by
  have hw : 12 ≤ maxLabelWidth := by decide
  refine ⟨hw, Console.neverRefuses_sound, ?_⟩
  obtain ⟨l, hl, -, hsame, -⟩ := chunking_law "api" hw Console.neverRefuses_sound
  exact ⟨l, hl, (hsame _ _ (by decide)).1⟩

end Labeller

end Ensemble
