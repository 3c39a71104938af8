import Mathlib.Data.List.Basic
import Mathlib.Data.List.Flatten
import Ensemble.Proofs.Labelling
import Ensemble.RunPhase

/-!
# Ensemble.Proofs.RunRecord

**The record of the run phase**, taken apart. Everything that a step of the phase can be is said
once (`Steps`), and whatever holds of the record follows by induction on it (`record_induction`).

What a worker did in the whole phase is its *share* of the record. Other workers neither touch its
stage nor what a runner holds for its number, so a share can be found without looking at the others
(`share_induction`): it is enough to say what becomes of the worker in its own turns. All shares
together are the record again, in another order (`perm_shares`).
-/

namespace Ensemble

namespace RunPhase

variable {r : Runner σ} {p : Project} {s s' : State σ} {turn? : Option Entry}

/-! ### Steps -/

/-- What a step of the phase can be. -/
inductive Steps (r : Runner σ) (p : Project) (s : State σ) : Option Entry → State σ → Prop
  /-- The first worker that has waited begins, when nothing is heard at once. -/
  | begins {number : Nat} {c : Component} (hw : s.workers[number]? = some ⟨c, .waiting⟩)
    (hfirst : ∀ {i w}, i < number → s.workers[i]? = some w → w.stage ≠ .waiting)
    (hquiet : ∀ {heard}, r.next? s.host.world = some heard → heard.atOnce = false) :
    Steps r p s (s.turn number ⟨c, .waiting⟩ (Worker.askEnv r p number c s.host)).1
      (s.turn number ⟨c, .waiting⟩ (Worker.askEnv r p number c s.host)).2
  /-- Something is heard of a worker's command, at once or when no worker waits. -/
  | hears {heard : Heard σ} {w : Worker} (hnext : r.next? s.host.world = some heard)
    (hw : s.workers[heard.number]? = some w)
    (hturn : (∀ w ∈ s.workers, w.stage ≠ .waiting) ∨ heard.atOnce = true) :
    Steps r p s
      (s.turn heard.number w
        (w.hear r p heard.number heard.news { s.host with world := heard.world })).1
      (s.turn heard.number w
        (w.hear r p heard.number heard.news { s.host with world := heard.world })).2
  /-- Something is heard of a command that no worker has started. -/
  | passesOver {heard : Heard σ} (hnext : r.next? s.host.world = some heard)
    (hnone : s.workers[heard.number]? = none) :
    Steps r p s none { s with host := { s.host with world := heard.world } }

theorem isWaiting_iff {w : Worker} : w.isWaiting ↔ w.stage = .waiting := by
  unfold Worker.isWaiting
  split <;> simp_all

theorem not_waiting_of_findIdx? {workers : List Worker}
    (h : workers.findIdx? Worker.isWaiting = none) : ∀ w ∈ workers, w.stage ≠ .waiting := by
  intro w hw hwaits
  have := List.findIdx?_eq_none_iff.mp h w hw
  simp [isWaiting_iff.mpr hwaits] at this

/-- What happens in the phase is one of these steps. -/
theorem steps_of_step? (h : step? r p s = some (turn?, s')) : Steps r p s turn? s' := by
  unfold step? next at h
  cases hfirst : s.workers.findIdx? Worker.isWaiting with
  | none =>
      cases hnext : r.next? s.host.world with
      | none => simp [hfirst, hnext] at h
      | some heard =>
          simp only [hfirst, hnext] at h
          split at h <;> rename_i hw <;> cases h
          · exact .passesOver hnext hw
          · exact .hears hnext hw (.inl (not_waiting_of_findIdx? hfirst))
  | some number =>
      obtain ⟨hlt, hwaits, hbefore⟩ := List.findIdx?_eq_some_iff_getElem.mp hfirst
      have hbegins : s.workers[number]? = some ⟨s.workers[number].component, .waiting⟩ := by
        rw [List.getElem?_eq_getElem hlt, ← isWaiting_iff.mp hwaits]
      have hbegun {i : Nat} {w : Worker} (hi : i < number) (hw : s.workers[i]? = some w) :
          w.stage ≠ .waiting := by
        obtain ⟨_, rfl⟩ := List.getElem?_eq_some_iff.mp hw
        exact fun hwaits => hbefore i hi (isWaiting_iff.mpr hwaits)
      cases hnext : r.next? s.host.world with
      | none =>
          simp only [hfirst, hnext, hbegins, Option.map_some, Option.some.injEq] at h
          cases h
          exact .begins hbegins hbegun (by simp [hnext])
      | some heard =>
          simp only [hfirst, hnext] at h
          cases hnow : heard.atOnce with
          | false =>
              simp only [hnow, Bool.false_eq_true, if_false, hbegins, Option.map_some,
                Option.some.injEq] at h
              cases h
              exact .begins hbegins hbegun (by simp [hnext, hnow])
          | true =>
              simp only [hnow, if_true] at h
              split at h <;> rename_i hw <;> cases h
              · exact .passesOver hnext hw
              · exact .hears hnext hw (.inr hnow)

/-- The phase is over when all workers have begun and nothing more is heard. -/
theorem over_of_step? (h : step? r p s = none) :
    r.next? s.host.world = none ∧ ∀ w ∈ s.workers, w.stage ≠ .waiting := by
  unfold step? next at h
  cases hfirst : s.workers.findIdx? Worker.isWaiting with
  | none =>
      refine ⟨?_, not_waiting_of_findIdx? hfirst⟩
      cases hnext : r.next? s.host.world with
      | none => rfl
      | some heard =>
          simp only [hfirst, hnext] at h
          split at h <;> cases h
  | some number =>
      obtain ⟨hlt, -, -⟩ := List.findIdx?_eq_some_iff_getElem.mp hfirst
      cases hnext : r.next? s.host.world with
      | none => simp [hfirst, hnext, hlt] at h
      | some heard =>
          simp only [hfirst, hnext] at h
          cases hnow : heard.atOnce with
          | false => simp [hnow, hlt] at h
          | true =>
              simp only [hnow, if_true] at h
              split at h <;> cases h

theorem record_of_none (h : step? r p s = none) : record r p s = ([], s.host) := by
  rw [record]
  split <;> simp_all

theorem record_of_some (h : step? r p s = some (turn?, s')) :
    record r p s = (turn?.toList ++ (record r p s').1, (record r p s').2) := by
  rw [record]
  split
  · simp_all
  · rename_i h'
    rw [h] at h'
    cases h'
    rfl

/-- What holds when the phase is over, and before a step if it holds after it, holds of the
record. -/
theorem record_induction {motive : State σ → List Entry → Host σ → Prop}
    (stops : ∀ s, step? r p s = none → motive s [] s.host)
    (goes : ∀ s turn? s' entries host, Steps r p s turn? s' → motive s' entries host →
      motive s (turn?.toList ++ entries) host) (s : State σ) :
    motive s (record r p s).1 (record r p s).2 := by
  induction s using record.induct r p with
  | case1 s h =>
      rw [record_of_none h]
      exact stops s h
  | case2 s turn? s' h _ _ _ ih =>
      rw [record_of_some h]
      exact goes s turn? s' _ _ (steps_of_step? h) ih

theorem Steps.length_workers (h : Steps r p s turn? s') : s'.workers.length = s.workers.length := by
  cases h with
  | begins hw => exact List.length_set
  | hears hnext hw => exact List.length_set
  | passesOver hnext hnone => rfl

/-- A worker that has not ended after a step had not ended before it. -/
theorem Steps.not_done (h : Steps r p s turn? s') {n : Nat} {w' : Worker}
    (hw' : s'.workers[n]? = some w') (hruns : w'.stage ≠ .done) :
    ∃ w, s.workers[n]? = some w ∧ w.stage ≠ .done := by
  cases h with
  | @begins number c hw =>
      by_cases hn : number = n
      · exact ⟨_, hn ▸ hw, by simp⟩
      · exact ⟨w', (List.getElem?_set_ne hn).symm.trans hw', hruns⟩
  | @hears heard w hnext hw =>
      by_cases hn : heard.number = n
      · subst hn
        refine ⟨w, hw, fun hdone => hruns ?_⟩
        obtain rfl := Option.some.inj
          ((List.getElem?_set_self (List.getElem?_eq_some_iff.mp hw).1).symm.trans hw')
        simp [Worker.hear, hdone]
      · exact ⟨w', (List.getElem?_set_ne hn).symm.trans hw', hruns⟩
  | passesOver hnext hnone => exact ⟨w', hw', hruns⟩

/-- Only workers that there are have turns. -/
theorem number_lt_of_mem_record : ∀ e ∈ (record r p s).1, e.number < s.workers.length := by
  induction s using record_induction with
  | stops s h => simp
  | goes s turn? s' entries host h ih =>
      intro e he
      rcases List.mem_append.mp he with he | he
      · cases h with
        | begins hw =>
            obtain rfl := List.mem_singleton.mp he
            exact (List.getElem?_eq_some_iff.mp hw).1
        | hears hnext hw =>
            obtain rfl := List.mem_singleton.mp he
            exact (List.getElem?_eq_some_iff.mp hw).1
        | passesOver hnext hnone => cases he
      · exact h.length_workers ▸ ih e he

/-! ### Shares -/

/-- The turns of one worker. -/
def share (number : Nat) (entries : List Entry) : List Entry :=
  entries.filter (·.number = number)

/-- Without the turns of another worker the share is the same. -/
theorem share_filter_of_ne {number other : Nat} (h : number ≠ other) (entries : List Entry) :
    share number (entries.filter fun e => !decide (e.number = other)) = share number entries := by
  rw [share, share, List.filter_filter]
  refine List.filter_congr fun e _ => ?_
  by_cases he : e.number = number <;> simp [he, h]

/-- All shares together are all turns, in another order. -/
theorem perm_shares {entries : List Entry} {n : Nat} (h : ∀ e ∈ entries, e.number < n) :
    ((List.range n).flatMap (share · entries)).Perm entries := by
  induction n generalizing entries with
  | zero =>
      obtain rfl : entries = [] :=
        List.eq_nil_iff_forall_not_mem.mpr fun e he => Nat.not_lt_zero _ (h e he)
      exact .nil
  | succ n ih =>
      -- The turns of the last worker are taken out, and what is left has one worker less.
      have hrest : ∀ e ∈ entries.filter (fun e => !decide (e.number = n)), e.number < n := by
        intro e he
        obtain ⟨hmem, hne⟩ := List.mem_filter.mp he
        have := h e hmem
        simp only [Bool.not_eq_true', decide_eq_false_iff_not] at hne
        omega
      have hshare : ∀ i ∈ List.range n,
          share i (entries.filter fun e => !decide (e.number = n)) = share i entries :=
        fun i hi => share_filter_of_ne (Nat.ne_of_lt (List.mem_range.mp hi)) entries
      rw [List.range_succ, List.flatMap_append, List.flatMap_singleton,
        ← List.flatMap_congr hshare]
      refine ((ih hrest).append_right _).trans ?_
      exact List.perm_append_comm.trans (List.filter_append_perm _ entries)

/-- If nothing that is chosen comes behind something that is not, the choice cuts the list in
two. -/
theorem filter_append_filter_not {q : α → Bool} {l : List α}
    (h : l.Pairwise fun a b => q b → q a) : l.filter q ++ l.filter (!q ·) = l := by
  induction l with
  | nil => rfl
  | cons a l ih =>
      obtain ⟨ha, hl⟩ := List.pairwise_cons.mp h
      by_cases hq : q a
      · simp [hq, ih hl]
      · have hnone : ∀ b ∈ l, q b = false := fun b hb => by simpa [hq] using ha b hb
        have hleft : l.filter q = [] := List.filter_eq_nil_iff.mpr fun b hb => by simp [hnone b hb]
        have hright : l.filter (!q ·) = l :=
          List.filter_eq_self.mpr fun b hb => by simp [hnone b hb]
        simp [hq, hleft, hright]

/-- Turns that come in the order of the workers are the shares one behind the other. -/
theorem flatMap_share {before : Nat → Nat → Prop} {order : List Nat} {entries : List Entry}
    (hmem : ∀ e ∈ entries, e.number ∈ order)
    (horder : order.Pairwise fun n m => m ≠ n ∧ ¬ before m n)
    (h : entries.Pairwise fun e e' => e.number = e'.number ∨ before e.number e'.number) :
    order.flatMap (share · entries) = entries := by
  induction order generalizing entries with
  | nil => exact (List.eq_nil_iff_forall_not_mem.mpr fun e he => nomatch hmem e he).symm
  | cons n order ih =>
      obtain ⟨hn, horder⟩ := List.pairwise_cons.mp horder
      -- No turn of the first worker comes behind one of another.
      have hfirst : entries.Pairwise fun e e' =>
          decide (e'.number = n) → decide (e.number = n) := by
        refine h.imp_of_mem fun {e e'} he _ hcases he' => ?_
        simp only [decide_eq_true_eq] at he' ⊢
        rcases hcases with hsame | hbefore
        · exact hsame.trans he'
        · rcases List.mem_cons.mp (hmem e he) with heq | hin
          · exact heq
          · exact absurd (he' ▸ hbefore) (hn _ hin).2
      have hrest : ∀ e ∈ entries.filter (fun e => !decide (e.number = n)), e.number ∈ order := by
        intro e he
        obtain ⟨hin, hne⟩ := List.mem_filter.mp he
        have hne : e.number ≠ n := by simpa using hne
        exact (List.mem_cons.mp (hmem e hin)).resolve_left hne
      have hshares : order.flatMap (share · entries) =
          order.flatMap fun m => share m (entries.filter fun e => !decide (e.number = n)) :=
        List.flatMap_congr fun m hm => (share_filter_of_ne (hn m hm).1 entries).symm
      rw [List.flatMap_cons, hshares, ih hrest horder (h.filter _)]
      exact filter_append_filter_not hfirst

theorem flatMap_filter_of_eq_nil {q : α → Bool} {f : α → List β}
    (hf : ∀ a, q a = false → f a = []) (l : List α) : (l.filter q).flatMap f = l.flatMap f := by
  induction l with
  | nil => rfl
  | cons a l ih => cases hq : q a <;> simp [hq, ih, hf]

end RunPhase

/-! ### What a runner holds for a number -/

/-- What a runner holds for one number is changed only by what concerns that number. -/
structure Runner.Separates (r : Runner σ) (view : σ → Nat → β) : Prop where
  start_other : ∀ {world number other} (inv : Invocation), number ≠ other →
    view (r.start number inv world) other = view world other
  next_other : ∀ {world heard other}, r.next? world = some heard → heard.number ≠ other →
    view heard.world other = view world other

/-- Every width that a labeller can be made for lets the run call start. -/
theorem Worker.startRun_ok {p : Project} (hwidth : p.options.labelWidth ≤ maxLabelWidth)
    (r : Runner σ) (number : Nat) (c : Component) (printed : String) (host : Host σ) :
    startRun r p number c (.ok printed) host =
      ⟨.running (p.runInvocation c printed) { tag := Labeller.tagOf c.name p.options.labelWidth },
        [.completed (p.envInvocation c).command, .answered (p.envInvocation c) (.ok printed),
          .started (p.runInvocation c printed)],
        { host with world := r.start number (p.runInvocation c printed) host.world }, none⟩ := by
  simp [startRun, Labeller.new?, hwidth]

/-- A worker that is heard of starts one command under its number, or none. -/
theorem Worker.world_hear (r : Runner σ) (p : Project) (number : Nat) (w : Worker) (news : News)
    (host : Host σ) :
    (w.hear r p number news host).host.world = host.world ∨
      ∃ inv, (w.hear r p number news host).host.world = r.start number inv host.world := by
  obtain ⟨c, stage⟩ := w
  unfold hear
  split
  · unfold startRun
    split
    · exact .inl rfl
    · split
      · exact .inl rfl
      · exact .inr ⟨_, rfl⟩
  · unfold passOn
    dsimp only
    split <;> exact .inl rfl
  · unfold finish
    dsimp only
    split <;> exact .inl rfl
  · exact .inl rfl

/-- A turn of one worker changes nothing that is held for another. -/
theorem Runner.Separates.hear_other {r : Runner σ} {view : σ → Nat → β} (hview : r.Separates view)
    {host : Host σ} {heard : Heard σ} (hnext : r.next? host.world = some heard) {number : Nat}
    (hother : heard.number ≠ number) (p : Project) (w : Worker) :
    view (w.hear r p heard.number heard.news { host with world := heard.world }).host.world number =
      view host.world number := by
  rcases w.world_hear r p heard.number heard.news { host with world := heard.world } with
    hsame | ⟨inv, hstarted⟩
  · rw [hsame]
    exact hview.next_other hnext hother
  · rw [hstarted, hview.start_other inv hother]
    exact hview.next_other hnext hother

namespace RunPhase

variable {r : Runner σ} {p : Project} {s : State σ}

/-- **Induction on the turns of one worker.** What holds when the phase is over, and before each of
the worker's turns if it holds after it, holds of the worker's share of the record. -/
theorem share_induction {view : σ → Nat → β} (hview : r.Separates view) {Inv : State σ → Prop}
    (hinv : ∀ {s turn? s'}, Steps r p s turn? s' → Inv s → Inv s') {number : Nat} {c : Component}
    {motive : Stage → β → List Entry → Prop}
    (stops : ∀ world stage, r.next? world = none → stage ≠ .waiting →
      motive stage (view world number) [])
    (begins : ∀ s entries, Inv s →
      let turn := Worker.askEnv r p number c s.host
      motive turn.stage (view turn.host.world number) entries →
      motive .waiting (view s.host.world number) (⟨number, turn.trace, turn.farewell?⟩ :: entries))
    (hears : ∀ s stage heard entries, Inv s → r.next? s.host.world = some heard →
      heard.number = number →
      let turn := Worker.hear r p number ⟨c, stage⟩ heard.news { s.host with world := heard.world }
      motive turn.stage (view turn.host.world number) entries →
      motive stage (view s.host.world number) (⟨number, turn.trace, turn.farewell?⟩ :: entries))
    {stage : Stage} (hs : Inv s) (hw : s.workers[number]? = some ⟨c, stage⟩) :
    motive stage (view s.host.world number) (share number (record r p s).1) := by
  induction s using record_induction generalizing stage with
  | stops s h =>
      obtain ⟨hnext, hbegun⟩ := over_of_step? h
      exact stops s.host.world stage hnext (hbegun _ (List.mem_of_getElem? hw))
  | goes s turn? s' entries host h ih =>
      have hs' := hinv h hs
      have hlt := (List.getElem?_eq_some_iff.mp hw).1
      cases h with
      | @begins other c' hw' =>
          by_cases hother : other = number
          · subst hother
            obtain ⟨rfl, rfl⟩ : c' = c ∧ Stage.waiting = stage := by simpa [hw'] using hw
            have hafter := ih hs' (List.getElem?_set_self hlt)
            simpa [share, State.turn] using begins s _ hs hafter
          · -- The turn of another is no part of the share and changes nothing that it depends on.
            have hafter := ih hs' ((List.getElem?_set_ne hother).trans hw)
            simpa [share, State.turn, Worker.askEnv, hother, hview.start_other _ hother]
              using hafter
      | @hears heard w hnext hw' =>
          by_cases hother : heard.number = number
          · subst hother
            obtain rfl : w = ⟨c, stage⟩ := by simpa [hw'] using hw
            have hafter := ih hs' (List.getElem?_set_self hlt)
            simpa [share, State.turn] using hears s stage heard _ hs hnext rfl hafter
          · have hafter := ih hs' ((List.getElem?_set_ne hother).trans hw)
            simpa [share, State.turn, hother, hview.hear_other hnext hother] using hafter
      | passesOver hnext hnone =>
          rename_i heard
          -- The worker is there, so a command without a worker is not its own.
          have hother : heard.number ≠ number := by
            rintro rfl
            rw [hw] at hnone
            cases hnone
          have hafter := ih hs' hw
          rwa [hview.next_other hnext hother] at hafter

/-! ### What is read off the record -/

/-- All that the workers did, in order, without what is told of their ends. -/
def deeds (entries : List Entry) : List Event :=
  entries.flatMap (·.trace)

@[simp] theorem deeds_cons (e : Entry) (entries : List Entry) :
    deeds (e :: entries) = e.trace ++ deeds entries := rfl

/-- How the workers ended, in order. -/
def farewells (entries : List Entry) : List Farewell :=
  entries.filterMap (·.farewell?)

@[simp] theorem farewells_cons (e : Entry) (entries : List Entry) :
    farewells (e :: entries) = e.farewell?.toList ++ farewells entries := by
  rw [farewells, List.filterMap_cons]
  cases e.farewell? <;> rfl

/-- What is told of the ends of workers is none of their deeds. -/
theorem filterMap_tell {f : Event → Option β}
    (hfinished : ∀ phase name, f (.finished phase name) = none)
    (hfailed : ∀ name failure, f (.workerFailed name failure) = none)
    (halready : ∀ name, f (.alreadyFailed name) = none) (failedBefore : Bool)
    (entries : List Entry) :
    (tell failedBefore entries).filterMap f = (deeds entries).filterMap f := by
  induction entries generalizing failedBefore with
  | nil => rfl
  | cons e entries ih =>
      have hend : (farewell failedBefore e.farewell?).filterMap f = [] := by
        unfold farewell
        split
        · rfl
        · simp [hfinished]
        · split <;> simp [hfailed, halready]
      rw [tell, List.filterMap_append, List.filterMap_append, hend, ih, deeds_cons,
        List.filterMap_append, List.append_nil]

theorem calls_tell (failedBefore : Bool) (entries : List Entry) :
    Event.calls (tell failedBefore entries) = Event.calls (deeds entries) :=
  filterMap_tell (fun _ _ => rfl) (fun _ _ => rfl) (fun _ => rfl) failedBefore entries

theorem completions_tell (failedBefore : Bool) (entries : List Entry) :
    Event.completions (tell failedBefore entries) = Event.completions (deeds entries) :=
  filterMap_tell (fun _ _ => rfl) (fun _ _ => rfl) (fun _ => rfl) failedBefore entries

theorem answers_tell (failedBefore : Bool) (entries : List Entry) :
    Event.answers (tell failedBefore entries) = Event.answers (deeds entries) :=
  filterMap_tell (fun _ _ => rfl) (fun _ _ => rfl) (fun _ => rfl) failedBefore entries

theorem consoleBytes_tell (failedBefore : Bool) (entries : List Entry) :
    Event.consoleBytes (tell failedBefore entries) = Event.consoleBytes (deeds entries) :=
  congrArg List.flatten
    (filterMap_tell (fun _ _ => rfl) (fun _ _ => rfl) (fun _ => rfl) failedBefore entries)

/-- The deeds of the workers stand in the trace in their order. -/
theorem deeds_sublist_tell (failedBefore : Bool) (entries : List Entry) :
    (deeds entries).Sublist (tell failedBefore entries) := by
  induction entries generalizing failedBefore with
  | nil => exact .slnil
  | cons e entries ih =>
      rw [tell, deeds_cons]
      exact (List.sublist_append_left _ _).append (ih _)

/-- So do those of one worker. -/
theorem deeds_share_sublist (number : Nat) (entries : List Entry) :
    (deeds (share number entries)).Sublist (deeds entries) :=
  List.Sublist.flatMap (List.filter_sublist) _

/-- What is read off all deeds is what is read off the shares, in another order. -/
theorem perm_filterMap_deeds (f : Event → Option β) {entries : List Entry} {n : Nat}
    (h : ∀ e ∈ entries, e.number < n) :
    ((List.range n).flatMap fun i => (deeds (share i entries)).filterMap f).Perm
      ((deeds entries).filterMap f) := by
  have hshares := ((perm_shares h).flatMap_right (·.trace)).filterMap f
  rwa [List.flatMap_assoc, List.filterMap_flatMap] at hshares

/-- Every worker's end stands in its share. -/
theorem mem_farewells_iff {entries : List Entry} {n : Nat} (h : ∀ e ∈ entries, e.number < n)
    {f : Farewell} : f ∈ farewells entries ↔ ∃ i < n, f ∈ farewells (share i entries) := by
  have hshares := (perm_shares h).filterMap (·.farewell?)
  rw [List.filterMap_flatMap] at hshares
  rw [farewells, ← hshares.mem_iff, List.mem_flatMap]
  simp only [List.mem_range, farewells]

/-- The first failure is that of the first worker that failed. -/
theorem findSome?_failure? (entries : List Entry) :
    entries.findSome? Entry.failure? = (farewells entries).findSome? Farewell.failure? := by
  induction entries with
  | nil => rfl
  | cons e entries ih =>
      rw [List.findSome?_cons, ih, Entry.failure?, farewells, farewells, List.filterMap_cons]
      cases e.farewell? with
      | none => rfl
      | some f => rfl

theorem failure?_eq_none_iff {f : Farewell} : f.failure? = none ↔ f.result = .ok () := by
  obtain ⟨name, _ | _⟩ := f <;> simp [Farewell.failure?]

theorem failure?_eq_some_iff {f : Farewell} {failure : Failure} :
    f.failure? = some failure ↔ f.result = .error failure := by
  obtain ⟨name, _ | _⟩ := f <;> simp [Farewell.failure?]

/-- The phase ends with a failure if a worker ended with it, and all that ended before succeeded. -/
theorem verdict_eq_error_iff {entries : List Entry} {failure : Failure} :
    verdict entries = .error failure ↔ ∃ before f after, farewells entries = before ++ f :: after ∧
      f.result = .error failure ∧ ∀ f' ∈ before, f'.result = .ok () := by
  have hfirst : verdict entries = .error failure ↔
      (farewells entries).findSome? Farewell.failure? = some failure := by
    rw [verdict, findSome?_failure?]
    cases (farewells entries).findSome? Farewell.failure? <;> simp
  simp only [hfirst, List.findSome?_eq_some_iff, failure?_eq_some_iff, failure?_eq_none_iff]

/-- The phase succeeds exactly when every worker that has ended did. -/
theorem verdict_eq_ok_iff {entries : List Entry} :
    verdict entries = .ok () ↔ ∀ f ∈ farewells entries, f.result = .ok () := by
  have hnone : verdict entries = .ok () ↔
      (farewells entries).findSome? Farewell.failure? = none := by
    rw [verdict, findSome?_failure?]
    cases (farewells entries).findSome? Farewell.failure? <;> simp
  simp only [hnone, List.findSome?_eq_none_iff, failure?_eq_none_iff]

/-- The result of a phase with one worker is that worker's. -/
theorem verdict_of_farewells {entries : List Entry} {f : Farewell} (h : farewells entries = [f]) :
    verdict entries = f.result := by
  obtain ⟨name, _ | _⟩ := f <;> simp [verdict, findSome?_failure?, h, Farewell.failure?]

end RunPhase

/-! ### What is stored -/

/-- Requests take back nothing of what a console has stored. -/
theorem Console.stored_serveAll (qs : List Request) (c : Console) :
    c.stored <+: (c.serveAll qs).2.stored := by
  induction qs generalizing c with
  | nil => exact List.prefix_rfl
  | cons q qs ih =>
      have hserve : c.stored <+: (c.serve q).2.stored := by
        cases q with
        | write bytes =>
            rw [serve, stored_write]
            exact List.prefix_append _ _
        | flush => exact (stored_flush c).symm ▸ List.prefix_rfl
      unfold serveAll
      split <;> rename_i heq
      · exact hserve.trans (heq ▸ ih _)
      · exact heq ▸ hserve

namespace Worker

/-- What is told of a console is what it has stored since. -/
theorem stored_told {earlier console : Console} (h : earlier.stored <+: console.stored)
    (result : Except IoFault Unit) :
    console.stored = earlier.stored ++ (told earlier console result).filterMap Event.line? := by
  have hlines :
      (told earlier console result).filterMap Event.line? = console.storedSince earlier := by
    unfold told
    cases result <;> simp [Event.line?, List.filterMap_map, Function.comp_def]
  rw [hlines]
  exact (List.prefix_iff_eq_append.mp h).symm

theorem stored_told_append {earlier console : Console} (h : earlier.stored <+: console.stored)
    (result : Except IoFault Unit) {rest : List Event} (hrest : rest.filterMap Event.line? = []) :
    console.stored = earlier.stored ++
      (told earlier console result ++ rest).filterMap Event.line? := by
  rw [List.filterMap_append, hrest, List.append_nil]
  exact stored_told h result

/-- A worker tells exactly what the console has stored in its turn. -/
theorem stored_hear (r : Runner σ) (p : Project) (number : Nat) (w : Worker) (news : News)
    (host : Host σ) :
    (w.hear r p number news host).host.console.stored = host.console.stored ++
      (w.hear r p number news host).trace.filterMap Event.line? := by
  obtain ⟨c, stage⟩ := w
  unfold hear
  split
  · unfold startRun
    split
    · simp [Event.line?]
    · split <;> simp [Event.line?]
  · rename_i inv l chunk _
    have hstored : host.console.stored <+:
        (Sink.labelled.offer (l, host.console) chunk).2.2.stored := by
      simp only [Sink.labelled, Labeller.write, Labeller.passOn_eq_serveAll]
      exact Console.stored_serveAll _ _
    unfold passOn
    dsimp only
    split
    · exact stored_told_append hstored _ rfl
    · exact stored_told hstored _
  · rename_i inv l result _
    have hstored : host.console.stored <+:
        (Sink.labelled.finish (l, host.console)).2.2.stored := by
      simp only [Sink.labelled, Labeller.finish, Labeller.passOn_eq_serveAll]
      exact Console.stored_serveAll _ _
    unfold finish
    dsimp only
    split
    · exact stored_told_append hstored _ rfl
    · exact stored_told_append hstored _ rfl
  · simp

end Worker

namespace RunPhase

variable {r : Runner σ} {p : Project} {s : State σ}

/-- The deeds of the workers tell exactly what the console has stored. -/
theorem stored_record :
    (record r p s).2.console.stored =
      s.host.console.stored ++ (deeds (record r p s).1).filterMap Event.line? := by
  induction s using record_induction with
  | stops s h => simp [deeds]
  | goes s turn? s' entries host h ih =>
      cases h with
      | begins hw => exact ih
      | hears hnext hw =>
          rw [ih]
          simp [State.turn, Worker.stored_hear]
      | passesOver hnext hnone => exact ih

/-! ### The whole phase -/

/-- The turns of all workers in a whole phase. -/
def turns (r : Runner σ) (p : Project) (host : Host σ) : List Entry :=
  (record r p (.start p host)).1

theorem getElem?_start (host : Host σ) {number : Nat} {c : Component}
    (h : p.components[number]? = some c) :
    (State.start p host).workers[number]? = some ⟨c, .waiting⟩ := by
  simp [State.start, h]

/-- Each turn is that of an include's worker. -/
theorem number_lt_of_mem_turns {host : Host σ} :
    ∀ e ∈ turns r p host, e.number < p.descriptor.includes.length := by
  have hlength : (State.start p host).workers.length = p.descriptor.includes.length := by
    simp [State.start, Project.components]
  exact hlength ▸ number_lt_of_mem_record

theorem number_lt_length_components {host : Host σ} :
    ∀ e ∈ turns r p host, e.number < p.components.length := by
  simpa [Project.components] using number_lt_of_mem_turns

/-- The console stores what the turns tell. -/
theorem bytes_runAll (r : Runner σ) (p : Project) (host : Host σ) :
    (runAll r p host).host.console.bytes =
      host.console.bytes ++ Event.consoleBytes (deeds (turns r p host)) := by
  have hstored : (runAll r p host).host.console.stored = _ := stored_record
  rw [Console.bytes, Console.bytes, hstored, List.flatten_append]
  rfl

end RunPhase

end Ensemble
