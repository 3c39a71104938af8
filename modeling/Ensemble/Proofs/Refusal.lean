import Mathlib.Data.List.Flatten
import Ensemble.Proofs.Labelling

/-!
# Ensemble.Proofs.Refusal

**A labeller on a console that refuses.** Lines leave a labeller before they are written, so a line
that is refused is lost; but that is all there is to lose. The main result, `refused_lines_lost`,
puts a labeller on a console that refuses some writes and some flushes beside one that takes the
same steps on a console that does not. Both hold back the same after every step, and the lines
missing on the first console are those that its failing steps dropped: the line that was refused and
the lines that the same step had completed behind it.

Passing on lines can end in four ways, and these are said once (`PassedOn`). All that a step loses
is read off them (`Step.kept`, `Step.lost`), and what a run loses is what its steps lose, step by
step (`trail`).
-/

namespace Ensemble

namespace Console

/-- The console after writes that it has granted. -/
def storing (entries : List Text.Bytes) (c : Console) : Console :=
  { c with writes := c.writes + entries.length, stored := c.stored ++ entries }

/-- The number of the first write that is refused, counted from the next one on. -/
structure RefusesFirst (c : Console) (k : Nat) : Prop where
  granted : ∀ j < k, c.refusesWrite (c.writes + j) = false
  refused : c.refusesWrite (c.writes + k) = true

theorem RefusesFirst.unique {c : Console} {k k' : Nat} (h : c.RefusesFirst k)
    (h' : c.RefusesFirst k') : k = k' := by
  rcases Nat.lt_trichotomy k k' with hlt | rfl | hlt
  · exact absurd h.refused (by simp [h'.granted k hlt])
  · rfl
  · exact absurd h'.refused (by simp [h.granted k' hlt])

theorem write_of_refused {c : Console} (h : c.refusesWrite c.writes = true) (bytes : Text.Bytes) :
    c.write bytes = (.error .writeRefused, { c with writes := c.writes + 1 }) := by
  simp [write, h]

theorem write_of_granted {c : Console} (h : c.refusesWrite c.writes = false) (bytes : Text.Bytes) :
    c.write bytes = (.ok (), c.storing [bytes]) := by
  simp [write, h, storing]

/-- Writes are granted one by one up to the first that is refused, and then no request is made. -/
theorem serveAll_writes (entries : List Text.Bytes) (qs : List Request) (c : Console) :
    ((∀ j < entries.length, c.refusesWrite (c.writes + j) = false) ∧
        c.serveAll (entries.map .write ++ qs) = (c.storing entries).serveAll qs) ∨
      ∃ k < entries.length, c.RefusesFirst k ∧
        c.serveAll (entries.map .write ++ qs) = (.error .writeRefused,
          { c.storing (entries.take k) with writes := c.writes + k + 1 }) := by
  induction entries generalizing c with
  | nil => exact .inl ⟨by simp, by simp [storing]⟩
  | cons entry entries ih =>
      rw [List.map_cons, List.cons_append, serveAll, serve]
      cases hnow : c.refusesWrite c.writes with
      | true =>
          rw [write_of_refused hnow]
          exact .inr ⟨0, by simp, ⟨by simp, hnow⟩, by simp [storing]⟩
      | false =>
          rw [write_of_granted hnow]
          dsimp only
          -- From the second write on the numbers are those of the rest, counted one further.
          have hlater (j : Nat) :
              (c.storing [entry]).refusesWrite ((c.storing [entry]).writes + j) =
              c.refusesWrite (c.writes + (j + 1)) := by
            simp only [storing, List.length_singleton]
            congr 1
            omega
          rcases ih (c.storing [entry]) with ⟨hgranted, hserved⟩ | ⟨k, hk, hfirst, hserved⟩
          · refine .inl ⟨fun j hj => ?_, ?_⟩
            · cases j with
              | zero => exact hnow
              | succ j => exact (hlater j).symm.trans (hgranted j (by simpa using hj))
            · rw [hserved]
              simp [storing, Nat.add_assoc, Nat.add_comm 1]
          · refine .inr ⟨k + 1, by simpa using hk, ⟨fun j hj => ?_, ?_⟩, ?_⟩
            · cases j with
              | zero => exact hnow
              | succ j => exact (hlater j).symm.trans (hfirst.granted j (by omega))
            · exact (hlater k).symm.trans hfirst.refused
            · rw [hserved]
              simp [storing, Nat.add_assoc, Nat.add_comm 1]

end Console

namespace Labeller

/-! ### One step -/

/-- **How passing on lines ends.** -/
inductive PassedOn (tag : String) (lines : List Text.Bytes) (c : Console) :
    Except IoFault Unit → Console → Prop
  /-- There is no line, and nothing is asked of the console. -/
  | nothing (hnone : lines = []) : PassedOn tag lines c (.ok ()) c
  /-- A line is refused. It is lost with those behind it, and nothing is flushed. -/
  | writeRefused {k : Nat} (hk : k < lines.length) (hfirst : c.RefusesFirst k) :
    PassedOn tag lines c (.error .writeRefused)
      { c.storing ((lines.take k).map (lineBytes tag)) with writes := c.writes + k + 1 }
  /-- All lines are written, but the flush is refused. -/
  | flushRefused (hsome : lines ≠ [])
    (hgranted : ∀ j < lines.length, c.refusesWrite (c.writes + j) = false)
    (hrefused : c.refusesFlush c.flushes = true) :
    PassedOn tag lines c (.error .flushRefused)
      { c.storing (lines.map (lineBytes tag)) with flushes := c.flushes + 1 }
  /-- All lines are written and flushed. -/
  | flushed (hsome : lines ≠ [])
    (hgranted : ∀ j < lines.length, c.refusesWrite (c.writes + j) = false)
    (hflushed : c.refusesFlush c.flushes = false) :
    PassedOn tag lines c (.ok ())
      { c.storing (lines.map (lineBytes tag)) with flushes := c.flushes + 1 }

theorem passedOn (tag : String) (lines : List Text.Bytes) (c : Console) :
    PassedOn tag lines c (c.serveAll (requests tag lines)).1
      (c.serveAll (requests tag lines)).2 := by
  by_cases hnone : lines = []
  · subst hnone
    exact .nothing rfl
  · have hrequests : requests tag lines = (lines.map (lineBytes tag)).map .write ++ [.flush] := by
      simp [requests, hnone]
    rw [hrequests]
    rcases c.serveAll_writes (lines.map (lineBytes tag)) [.flush] with
      ⟨hgranted, hserved⟩ | ⟨k, hk, hfirst, hserved⟩
    · rw [hserved]
      rw [List.length_map] at hgranted
      cases hflush : c.refusesFlush c.flushes with
      | true =>
          have h : PassedOn tag lines c _ _ := .flushRefused hnone hgranted hflush
          simpa [Console.serveAll, Console.serve, Console.flush, Console.storing, hflush] using h
      | false =>
          have h : PassedOn tag lines c _ _ := .flushed hnone hgranted hflush
          simpa [Console.serveAll, Console.serve, Console.flush, Console.storing, hflush] using h
    · rw [hserved, ← List.map_take]
      exact .writeRefused (by simpa using hk) hfirst

namespace PassedOn

variable {tag : String} {lines : List Text.Bytes} {c c' : Console} {result : Except IoFault Unit}

/-- The lines that are stored stand at the front, and only a refused line ends them early. -/
theorem stored (h : PassedOn tag lines c result c') :
    ∃ k ≤ lines.length, c'.stored = c.stored ++ (lines.take k).map (lineBytes tag) ∧
      (result ≠ .error .writeRefused → k = lines.length) := by
  cases h with
  | nothing hnone => exact ⟨0, Nat.zero_le _, by simp, fun _ => by simp [hnone]⟩
  | @writeRefused k hk hfirst => exact ⟨k, Nat.le_of_lt hk, rfl, fun hresult => absurd rfl hresult⟩
  | flushRefused hsome hgranted hrefused =>
      exact ⟨lines.length, Nat.le_refl _, by simp [Console.storing], fun _ => rfl⟩
  | flushed hsome hgranted hflushed =>
      exact ⟨lines.length, Nat.le_refl _, by simp [Console.storing], fun _ => rfl⟩

/-- What the console refuses is fixed beforehand. -/
theorem refusals (h : PassedOn tag lines c result c') :
    c'.refusesWrite = c.refusesWrite ∧ c'.refusesFlush = c.refusesFlush := by
  cases h <;> exact ⟨rfl, rfl⟩

/-- If a line is the first to be refused, passing on ends with it. -/
theorem of_refusesFirst (h : PassedOn tag lines c result c') {k : Nat} (hk : k < lines.length)
    (hfirst : c.RefusesFirst k) :
    result = .error .writeRefused ∧ c'.flushes = c.flushes ∧
      c'.stored = c.stored ++ (lines.take k).map (lineBytes tag) := by
  cases h with
  | nothing hnone => simp [hnone] at hk
  | @writeRefused k' hk' hfirst' =>
      obtain rfl := hfirst.unique hfirst'
      exact ⟨rfl, rfl, rfl⟩
  | flushRefused hsome hgranted hrefused =>
      exact absurd hfirst.refused (by simp [hgranted k hk])
  | flushed hsome hgranted hflushed =>
      exact absurd hfirst.refused (by simp [hgranted k hk])

/-- If all lines are granted but not the flush, passing on fails with the flush. -/
theorem of_refusesFlush (h : PassedOn tag lines c result c') (hsome : lines ≠ [])
    (hgranted : ∀ j < lines.length, c.refusesWrite (c.writes + j) = false)
    (hrefused : c.refusesFlush c.flushes = true) : result = .error .flushRefused := by
  cases h with
  | nothing hnone => exact absurd hnone hsome
  | writeRefused hk hfirst => exact absurd hfirst.refused (by simp [hgranted _ hk])
  | flushRefused => rfl
  | flushed _ _ hflushed => simp [hflushed] at hrefused

/-- Passing on succeeds exactly when none of the requests that are made is refused. -/
theorem ok_iff (h : PassedOn tag lines c result c') :
    result = .ok () ↔
      (∀ n, c.writes ≤ n → n < c'.writes → c.refusesWrite n = false) ∧
        ∀ n, c.flushes ≤ n → n < c'.flushes → c.refusesFlush n = false := by
  cases h with
  | nothing hnone =>
      refine iff_of_true rfl ⟨fun n hle hlt => ?_, fun n hle hlt => ?_⟩
      · exact absurd hlt (Nat.not_lt.mpr hle)
      · exact absurd hlt (Nat.not_lt.mpr hle)
  | @writeRefused k hk hfirst =>
      refine iff_of_false (by simp) fun hnone => ?_
      have hgranted := hnone.1 (c.writes + k) (by omega) (by simp)
      exact absurd hfirst.refused (by simp [hgranted])
  | flushRefused hsome hgranted hrefused =>
      refine iff_of_false (by simp) fun hnone => ?_
      have hgranted := hnone.2 c.flushes (Nat.le_refl _) (by simp)
      exact absurd hrefused (by simp [hgranted])
  | flushed hsome hgranted hflushed =>
      refine iff_of_true rfl ⟨fun n hle hlt => ?_, fun n hle hlt => ?_⟩
      · have hn := hgranted (n - c.writes) (by simp [Console.storing] at hlt; omega)
        rwa [Nat.add_sub_cancel' hle] at hn
      · obtain rfl : n = c.flushes := by simp at hlt; omega
        exact hflushed

end PassedOn

namespace Step

/-- The lines of a step that are stored. -/
def kept (step : Step) (s : Labeller × Console) : List Text.Bytes :=
  (step.completes s.1.pending).take ((step.perform s).2.2.storedSince s.2).length

/-- The lines of a step that are not stored. -/
def lost (step : Step) (s : Labeller × Console) : List Text.Bytes :=
  (step.completes s.1.pending).drop ((step.perform s).2.2.storedSince s.2).length

theorem kept_append_lost (step : Step) (s : Labeller × Console) :
    step.kept s ++ step.lost s = step.completes s.1.pending :=
  List.take_append_drop _ _

/-- **What a step does on a console that may refuse.** -/
structure Endures (step : Step) (s : Labeller × Console) : Prop where
  /-- A line is refused: those before it are stored, it is lost with those behind it, nothing is
  flushed, and the step fails with the refusal. -/
  write_refused : ∀ {k}, k < (step.completes s.1.pending).length → s.2.RefusesFirst k →
    (step.perform s).1 = .error .writeRefused ∧
      (step.perform s).2.2.flushes = s.2.flushes ∧
      step.kept s = (step.completes s.1.pending).take k ∧
      step.lost s = (step.completes s.1.pending).drop k
  /-- The flush behind the lines is refused: the step fails with that, but loses nothing. -/
  flush_refused : step.completes s.1.pending ≠ [] →
    (∀ j < (step.completes s.1.pending).length, s.2.refusesWrite (s.2.writes + j) = false) →
    s.2.refusesFlush s.2.flushes = true →
    (step.perform s).1 = .error .flushRefused ∧ step.lost s = []
  /-- The step succeeds exactly when none of the requests that it makes is refused. -/
  ok_iff : (∃ reply, (step.perform s).1 = .ok reply) ↔
    (∀ n, s.2.writes ≤ n → n < (step.perform s).2.2.writes → s.2.refusesWrite n = false) ∧
      ∀ n, s.2.flushes ≤ n → n < (step.perform s).2.2.flushes → s.2.refusesFlush n = false
  /-- Only a refused line is lost. -/
  lost_eq_nil : (step.perform s).1 ≠ .error .writeRefused → step.lost s = []
  /-- What is stored is whole lines. -/
  stored_eq : (step.perform s).2.2.stored = s.2.stored ++ (step.kept s).map (lineBytes s.1.tag)

/-- A step that has stored some of its lines has kept these and lost the others. -/
theorem kept_eq_take {step : Step} {s : Labeller × Console} {k : Nat}
    (hk : k ≤ (step.completes s.1.pending).length)
    (h : (step.perform s).2.2.stored =
      s.2.stored ++ ((step.completes s.1.pending).take k).map (lineBytes s.1.tag)) :
    step.kept s = (step.completes s.1.pending).take k ∧
      step.lost s = (step.completes s.1.pending).drop k := by
  have hlength : ((step.perform s).2.2.storedSince s.2).length = k := by
    simp [Console.storedSince, h, hk]
  rw [kept, lost, hlength]
  exact ⟨rfl, rfl⟩

/-- A step passes on the lines that it completes. -/
theorem passedOn_perform (step : Step) (l : Labeller) (c : Console) :
    ∃ result c', PassedOn l.tag (step.completes l.pending) c result c' ∧
      step.perform (l, c) = (result.map fun () => step.reply,
        { l with pending := step.holds l.pending }, c') :=
  ⟨_, _, passedOn _ _ c, step.perform_eq_serveAll l c⟩

theorem endures (step : Step) (s : Labeller × Console) : step.Endures s := by
  obtain ⟨l, c⟩ := s
  obtain ⟨result, c', hpassed, hperform⟩ := step.passedOn_perform l c
  obtain ⟨k, hk, hstored, hall⟩ := hpassed.stored
  have hsplit : step.kept (l, c) = (step.completes l.pending).take k ∧
      step.lost (l, c) = (step.completes l.pending).drop k :=
    kept_eq_take hk (by rw [hperform]; exact hstored)
  have hresult (fault : IoFault) :
      (step.perform (l, c)).1 = .error fault ↔ result = .error fault := by
    rw [hperform]
    cases result <;> simp [Except.map]
  have hlostAll (hne : (step.perform (l, c)).1 ≠ .error .writeRefused) : step.lost (l, c) = [] := by
    rw [hsplit.2, hall (mt (hresult _).mpr hne), List.drop_length]
  constructor
  · intro k' hk' hfirst
    obtain ⟨hfails, hflushes, hstored'⟩ := hpassed.of_refusesFirst hk' hfirst
    refine ⟨(hresult _).mpr hfails, by rw [hperform]; exact hflushes, ?_⟩
    exact kept_eq_take (Nat.le_of_lt hk') (by rw [hperform]; exact hstored')
  · intro hsome hgranted hrefused
    have hfails := (hresult _).mpr (hpassed.of_refusesFlush hsome hgranted hrefused)
    exact ⟨hfails, hlostAll (by simp [hfails])⟩
  · rw [hperform, ← hpassed.ok_iff]
    cases result <;> simp [Except.map]
  · exact hlostAll
  · rw [hsplit.1, hperform]
    exact hstored

end Step

/-! ### All steps -/

/-- Steps that are taken one after the other, each with the state that it is taken in. -/
def trail : List Step → Labeller × Console → List (Step × (Labeller × Console))
  | [], _ => []
  | step :: steps, s => (step, s) :: trail steps (step.perform s).2

/-- What a labeller holds back does not depend on its console. -/
theorem afterAll_fst (steps : List Step) (l : Labeller) (c c' : Console) :
    (afterAll steps (l, c)).1 = (afterAll steps (l, c')).1 := by
  induction steps generalizing l c c' with
  | nil => rfl
  | cons step steps ih =>
      rw [afterAll_cons, afterAll_cons, Step.perform_eq_serveAll, Step.perform_eq_serveAll]
      exact ih ..

theorem afterAll_tag (steps : List Step) (s : Labeller × Console) :
    (afterAll steps s).1.tag = s.1.tag := by
  induction steps generalizing s with
  | nil => rfl
  | cons step steps ih =>
      rw [afterAll_cons, ih, Step.perform_eq_serveAll]

theorem afterAll_refusals (steps : List Step) (s : Labeller × Console) :
    (afterAll steps s).2.refusesWrite = s.2.refusesWrite ∧
      (afterAll steps s).2.refusesFlush = s.2.refusesFlush := by
  induction steps generalizing s with
  | nil => exact ⟨rfl, rfl⟩
  | cons step steps ih =>
      obtain ⟨result, c', hpassed, hperform⟩ := step.passedOn_perform s.1 s.2
      obtain ⟨hwrite, hflush⟩ := hpassed.refusals
      obtain ⟨hwrite', hflush'⟩ := ih (step.perform s).2
      rw [afterAll_cons, hwrite', hflush', hperform]
      exact ⟨hwrite, hflush⟩

/-- What is stored is what the steps have kept, one after the other. -/
theorem stored_trail (steps : List Step) (s : Labeller × Console) :
    (afterAll steps s).2.stored = s.2.stored ++
      ((trail steps s).flatMap fun t => t.1.kept t.2).map (lineBytes s.1.tag) := by
  induction steps generalizing s with
  | nil => simp [trail]
  | cons step steps ih =>
      have htag : (step.perform s).2.1.tag = s.1.tag := by rw [Step.perform_eq_serveAll]
      rw [afterAll_cons, ih, (step.endures s).stored_eq, htag, trail]
      simp

/-- What would be stored is what they have kept and lost. -/
theorem stored_of_neverRefuses (steps : List Step) (l : Labeller) (c : Console) {sound : Console}
    (hsound : sound.NeverRefuses) :
    (afterAll steps (l, sound)).2.stored = sound.stored ++
      ((trail steps (l, c)).flatMap fun t => t.1.kept t.2 ++ t.1.lost t.2).map
        (lineBytes l.tag) := by
  induction steps generalizing l c sound with
  | nil => simp [trail]
  | cons step steps ih =>
      rw [afterAll_cons, Step.perform_of_neverRefuses step l hsound]
      dsimp only
      rw [ih _ (step.perform (l, c)).2.2 (hsound.granting _), trail, List.flatMap_cons,
        Step.kept_append_lost]
      have hnext : (step.perform (l, c)).2 =
          ({ l with pending := step.holds l.pending }, (step.perform (l, c)).2.2) := by
        rw [Step.perform_eq_serveAll]
      rw [← hnext]
      simp [Console.granting]

theorem lineFeed_not_mem_trail {steps : List Step} {s : Labeller × Console}
    (h : Text.lineFeed ∉ s.1.pending) :
    ∀ line ∈ (trail steps s).flatMap fun t => t.1.kept t.2 ++ t.1.lost t.2,
      Text.lineFeed ∉ line := by
  induction steps generalizing s with
  | nil => simp [trail]
  | cons step steps ih =>
      obtain ⟨hlines, hholds⟩ := step.lineFeed_not_mem h
      rw [trail, List.flatMap_cons, Step.kept_append_lost, List.forall_mem_append]
      refine ⟨hlines, ih ?_⟩
      rw [Step.perform_eq_serveAll]
      exact hholds

/-- **Only refused lines are lost.** A labeller takes some steps on a console that refuses any
writes and any flushes, and the same steps on a console that refuses nothing:

* it holds back the same, and what the first console refuses has not changed;
* what is stored are whole lines, and they are those of the other console, in order, without those
  that its steps have lost, and no step loses a line unless the console has refused it one;
* of a further step is known what it stores and what it loses if its first refused line is the
  `k`-th, or if its flush is refused, and that it succeeds exactly when none of its own requests is
  refused. On the other console it stores all the lines that it completes. -/
theorem refused_lines_lost (label : String) {width : Nat} (hw : width ≤ maxLabelWidth)
    (refusesWrite refusesFlush : Nat → Bool) :
    ∃ l, new? label width = some l ∧ ∀ steps,
      let s := afterAll steps (l, .refusing refusesWrite refusesFlush)
      let reference := afterAll steps (l, .sound)
      let turns := trail steps (l, .refusing refusesWrite refusesFlush)
      let kept := turns.flatMap fun t => t.1.kept t.2
      let all := turns.flatMap fun t => t.1.kept t.2 ++ t.1.lost t.2
      (s.1.pending = reference.1.pending ∧
        s.2.refusesWrite = refusesWrite ∧ s.2.refusesFlush = refusesFlush) ∧
      (s.2.stored = kept.map (lineBytes (tagOf label width)) ∧
        reference.2.stored = all.map (lineBytes (tagOf label width)) ∧
        kept.Sublist all ∧ (∀ line ∈ all, Text.lineFeed ∉ line) ∧
        ∀ t ∈ turns, t.1.lost t.2 ≠ [] → (t.1.perform t.2).1 = .error .writeRefused) ∧
      ∀ step : Step, step.Endures s ∧
        (step.perform reference).1 = .ok step.reply ∧
        (step.perform reference).2.2.stored =
          reference.2.stored ++
            (step.completes s.1.pending).map (lineBytes (tagOf label width)) := by
  refine ⟨_, if_pos hw, fun steps => ?_⟩
  intro s reference turns kept all
  have hpending : s.1.pending = reference.1.pending := congrArg _ (afterAll_fst steps _ _ _)
  have htag : reference.1.tag = tagOf label width := afterAll_tag steps _
  have hsound : reference.2.NeverRefuses :=
    ((follows_start Console.neverRefuses_sound).run steps).neverRefuses
  have hperform (step : Step) := step.perform_of_neverRefuses reference.1 hsound
  refine ⟨⟨hpending, afterAll_refusals steps _⟩, ⟨stored_trail steps _, ?_, ?_, ?_, ?_⟩,
    fun step => ⟨step.endures s, ?_, ?_⟩⟩
  · exact stored_of_neverRefuses steps _ _ Console.neverRefuses_sound
  · exact List.Sublist.flatMap_right turns fun t _ => List.sublist_append_left _ _
  · exact lineFeed_not_mem_trail List.not_mem_nil
  · intro t _ hlost
    by_contra hne
    exact hlost ((t.1.endures t.2).lost_eq_nil hne)
  · exact congrArg Prod.fst (hperform step)
  · rw [hpending, ← htag, ← filterMap_requests]
    exact congrArg (·.2.2.stored) (hperform step)

/-- Of three lines that one chunk completes the second is refused: the first is stored, the two
others are lost, and the next step stores its own line. -/
theorem refused_lines_lost_midway :
    let steps : List Step := [.write [97, 10, 98, 10, 99, 10, 100], .finish]
    12 ≤ maxLabelWidth ∧ ∃ l, new? "api" 12 = some l ∧
      (afterAll steps (l, .refusing (· == 1) fun _ => false)).2.stored =
        [[97], [100]].map (lineBytes (tagOf "api" 12)) ∧
      (afterAll steps (l, .sound)).2.stored =
        [[97], [98], [99], [100]].map (lineBytes (tagOf "api" 12)) := by
  intro steps
  have hw : 12 ≤ maxLabelWidth := by decide
  obtain ⟨l, hl, hrun⟩ := refused_lines_lost "api" hw (· == 1) fun _ => false
  obtain ⟨-, ⟨hstored, hreference, -⟩, -⟩ := hrun steps
  obtain rfl : { tag := tagOf "api" 12 } = l := Option.some.inj hl
  exact ⟨hw, _, hl, hstored, hreference⟩

end Labeller

end Ensemble
