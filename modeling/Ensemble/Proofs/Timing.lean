import Mathlib.Data.List.Sort
import Ensemble.Proofs.Isolation

/-!
# Ensemble.Proofs.Timing

**When the workers of a scripted run phase end.** Each worker sleeps for the delays of its two
calls, so the time of its end is known beforehand (`endTime`). The main result,
`scriptedRunner_reports`, reads the whole report of the phase off these times, as long as no two
workers resume at the same moment: the failure reported is that of the first failing worker in the
order of the ends, and the console shows the outputs in this order, each in one piece.

The agenda is kept by time, and each running call has its appointment at the moment that is known
for it (`OnTime`). One turn keeps this, whatever it is (`OnTime.step`). So from one turn that is
seen from outside to the next time goes on, and the record, as far as it is seen, is the shares of
the workers put one behind the other (`flatMap_turns`).
-/

namespace Ensemble

/-! ### Times that are known beforehand -/

section

variable (scripts : List Script) (p : Project)

/-- The script that answers a component's environment call. -/
def envScript (c : Component) : Script :=
  Script.find scripts (p.envInvocation c).command

/-- The script that answers a component's run call. The environment of the call has no part in
it. -/
def runScript (c : Component) : Script :=
  Script.find scripts (c.command p.options.tool Phase.run.target)

/-- When a component's worker ends, counted from the beginning of the phase: after its environment
call, and after its run call if the first has succeeded. -/
def endTime (c : Component) : Nat :=
  (envScript scripts p c).delay +
    if (envScript scripts p c).reply = .succeeds then (runScript scripts p c).delay else 0

/-- The moments at which a component's worker resumes after it has slept. A call without a delay
ends at the moment at which it is made, and if that is the beginning, nobody has slept. -/
def resumptions (c : Component) : List Nat :=
  [(envScript scripts p c).delay, endTime scripts p c].filter (0 < ·)

/-- No two workers resume at the same moment. -/
def NoTies : Prop :=
  p.components.Pairwise fun c c' => ∀ t ∈ resumptions scripts p c, t ∉ resumptions scripts p c'

/-- Both calls of a component succeed. -/
def Succeeds (c : Component) : Prop :=
  (envScript scripts p c).reply = .succeeds ∧ (runScript scripts p c).reply = .succeeds

/-- One component's worker ends before another's: earlier, or at the same time and then the
component is included before the other. -/
def EndsBefore (a b : Component × Nat) : Prop :=
  endTime scripts p a.1 < endTime scripts p b.1 ∨
    endTime scripts p a.1 = endTime scripts p b.1 ∧ a.2 < b.2

/-- The same for two components that are known by their places among the includes. -/
def Precedes (n m : Nat) : Prop :=
  ∃ c c', p.components[n]? = some c ∧ p.components[m]? = some c' ∧
    EndsBefore scripts p (c, n) (c', m)

/-- Of the components that fail, this one's worker ends first. -/
structure FailsFirst (x : Component × Nat) : Prop where
  component_eq : p.components[x.2]? = some x.1
  fails : ¬Succeeds scripts p x.1
  first : ∀ {y : Component × Nat}, p.components[y.2]? = some y.1 → ¬Succeeds scripts p y.1 →
    y.2 ≠ x.2 → EndsBefore scripts p x y

/-- One component's worker ends no later than another's. -/
def EndsNoLater (a b : Component × Nat) : Prop :=
  endTime scripts p a.1 < endTime scripts p b.1 ∨
    endTime scripts p a.1 = endTime scripts p b.1 ∧ a.2 ≤ b.2

instance : DecidableRel (EndsNoLater scripts p) :=
  fun _ _ => inferInstanceAs (Decidable (_ ∨ _ ∧ _))

/-- The components with their places among the includes, in the order in which their workers
end. -/
def endOrder : List (Component × Nat) :=
  p.components.zipIdx.insertionSort (EndsNoLater scripts p)

end

/-! ### The agenda is kept by time -/

namespace Agenda

/-- The appointments come one after the other, and none of them is past. -/
structure Ahead (g : Agenda) : Prop where
  sorted : g.appointments.Pairwise (·.time < ·.time)
  now_le : ∀ a ∈ g.appointments, g.now ≤ a.time

theorem pairwise_insert {a : Appointment} {others : List Appointment}
    (h : others.Pairwise (·.time < ·.time)) (hne : ∀ b ∈ others, b.time ≠ a.time) :
    (insert a others).Pairwise (·.time < ·.time) := by
  induction others with
  | nil => simp [insert]
  | cons b others ih =>
      obtain ⟨hb, hothers⟩ := List.pairwise_cons.mp h
      obtain ⟨hba, hne⟩ := List.forall_mem_cons.mp hne
      unfold insert
      split
      · refine List.pairwise_cons.mpr ⟨fun c hc => ?_, ih hothers hne⟩
        rcases mem_insert.mp hc with rfl | hc
        · omega
        · exact hb c hc
      · refine List.pairwise_cons.mpr ⟨fun c hc => ?_, h⟩
        rcases List.mem_cons.mp hc with rfl | hc
        · omega
        · have := hb c hc
          omega

/-- What is noted when nothing is due keeps the agenda, unless it comes together with another. -/
theorem Ahead.note {g : Agenda} (hg : g.Ahead) {a : Appointment} (ha : g.now ≤ a.time)
    (hquiet : ∀ b ∈ g.appointments, g.now < b.time) (hne : ∀ b ∈ g.appointments, b.time ≠ a.time) :
    (g.note a).Ahead where
  sorted := by
    unfold Agenda.note
    dsimp only
    split
    · refine List.pairwise_cons.mpr ⟨fun b hb => ?_, hg.sorted⟩
      have := hquiet b hb
      omega
    · exact pairwise_insert hg.sorted hne
  now_le := by
    intro b hb
    rcases mem_note.mp hb with rfl | hb
    · exact ha
    · exact hg.now_le b hb

/-- What is heard is heard at the time of the first appointment of its number, and all others are
still to come. -/
theorem Ahead.cases_of_next? {g : Agenda} (hg : g.Ahead) {heard : Heard Agenda}
    (h : g.next? = some heard) :
    heard.world.Ahead ∧
      (∀ b ∈ heard.world.appointments, b.number ≠ heard.number → heard.world.now < b.time) ∧
      ∃ a own, ofNumber heard.number g.appointments = a :: own ∧ heard.world.now = a.time ∧
        ((∃ chunk, heard.news = .chunk chunk ∧ a.chunk? = some chunk ∧
            ofNumber heard.number heard.world.appointments = { a with chunk? := none } :: own) ∨
          heard.news = .ended a.result ∧ a.chunk? = none ∧
            ofNumber heard.number heard.world.appointments = own) := by
  obtain ⟨a, others, ha, hnumber, hcases⟩ := Agenda.cases_of_next? h
  obtain ⟨hsorted, hle⟩ := hg
  rw [ha] at hsorted hle
  obtain ⟨hlater, hothers⟩ := List.pairwise_cons.mp hsorted
  have hnow : heard.world.now = a.time := by
    rw [(clock_of_next? ha h).1]
    exact Nat.max_eq_right (hle a (List.mem_cons_self ..))
  have hown : ofNumber heard.number g.appointments = a :: ofNumber heard.number others := by
    simp [ofNumber, ha, hnumber]
  rcases hcases with ⟨chunk, hchunk, hnews, happs⟩ | ⟨hchunk, hnews, happs⟩
  · refine ⟨⟨?_, ?_⟩, ?_, a, _, hown, hnow, .inl ⟨chunk, hnews, hchunk, ?_⟩⟩
    · rw [happs]
      exact List.pairwise_cons.mpr ⟨hlater, hothers⟩
    · rw [happs, hnow]
      exact List.forall_mem_cons.mpr
        ⟨Nat.le_refl _, fun b hb => Nat.le_of_lt (hlater b hb)⟩
    · rw [happs, hnow]
      exact List.forall_mem_cons.mpr
        ⟨fun hne => absurd hnumber.symm hne, fun b hb _ => hlater b hb⟩
    · simp [ofNumber, happs, hnumber]
  · refine ⟨⟨happs ▸ hothers, ?_⟩, ?_, a, _, hown, hnow, .inr ⟨hnews, hchunk, by rw [happs]⟩⟩
    · rw [happs, hnow]
      exact fun b hb => Nat.le_of_lt (hlater b hb)
    · rw [happs, hnow]
      exact fun b hb _ => hlater b hb

theorem number_ne_of_ofNumber {appointments : List Appointment} {number : Nat}
    (h : ofNumber number appointments = []) : ∀ a ∈ appointments, a.number ≠ number := by
  simpa [ofNumber] using h

theorem now_le_of_next? {g : Agenda} {heard : Heard Agenda} (h : g.next? = some heard) :
    g.now ≤ heard.world.now := by
  obtain ⟨a, others, ha, -⟩ := Agenda.cases_of_next? h
  rw [(clock_of_next? ha h).1]
  exact Nat.le_max_left _ _

/-- What is heard at once takes no time. -/
theorem now_of_atOnce {g : Agenda} {heard : Heard Agenda} (h : g.next? = some heard)
    (hatOnce : heard.atOnce = true) : heard.world.now = g.now := by
  obtain ⟨a, others, ha, -⟩ := Agenda.cases_of_next? h
  obtain ⟨hnow, hdue⟩ := clock_of_next? ha h
  rw [hnow]
  exact Nat.max_eq_left (of_decide_eq_true (hdue.symm.trans hatOnce))

/-- When nothing is heard at once, nothing is due. -/
theorem Ahead.now_lt_of_quiet {g : Agenda} (hg : g.Ahead)
    (h : ∀ {heard}, g.next? = some heard → heard.atOnce = false) :
    ∀ a ∈ g.appointments, g.now < a.time := by
  intro b hb
  cases hnext : g.next? with
  | none =>
      rw [appointments_of_next? hnext] at hb
      cases hb
  | some heard =>
      obtain ⟨a, others, ha, -⟩ := Agenda.cases_of_next? hnext
      have hfirst := (clock_of_next? ha hnext).2.symm.trans (h hnext)
      have hsorted := hg.sorted
      rw [ha] at hsorted hb
      have hle : a.time ≤ b.time := by
        rcases List.mem_cons.mp hb with rfl | hb
        · exact Nat.le_refl _
        · exact Nat.le_of_lt ((List.pairwise_cons.mp hsorted).1 b hb)
      have := of_decide_eq_false hfirst
      omega

end Agenda

/-! ### Every call ends at its time -/

/-- What is seen of a turn from outside: output, or the end of the worker. -/
def RunPhase.Entry.isSeen (e : RunPhase.Entry) : Bool :=
  e.farewell?.isSome || (e.trace.filterMap Event.line?) != []

/-- Nothing is seen any more of a worker that has ended. -/
theorem RunPhase.Steps.not_done_of_seen {r : Runner σ} {p : Project} {s s' : State σ} {e : Entry}
    (h : Steps r p s (some e) s') (hseen : e.isSeen) :
    ∃ w, s.workers[e.number]? = some w ∧ w.stage ≠ .done := by
  cases h with
  | begins hw => exact ⟨_, hw, by simp⟩
  | @hears heard w hnext hw =>
      refine ⟨w, hw, fun hdone => ?_⟩
      simp [Entry.isSeen, Worker.hear, hdone] at hseen

section

variable (scripts : List Script) (p : Project) (start : Nat)

/-- What is on the agenda for a worker of a phase that began at `start`. -/
def Scheduled (number : Nat) (w : Worker) (own : List Appointment) : Prop :=
  match w.stage with
  | .waiting | .done => own = []
  | .asking =>
    own = [⟨number, start + (envScript scripts p w.component).delay, none,
      (envScript scripts p w.component).result (p.envInvocation w.component).command⟩]
  | .running .. => ∃ a, own = [a] ∧ a.time = start + endTime scripts p w.component

end

section

variable {scripts : List Script} {p : Project} {start : Nat}

theorem chunk?_envInvocation (s : Script) (p : Project) (c : Component) :
    s.chunk? (p.envInvocation c) = none := by
  unfold Script.chunk? Project.envInvocation
  split <;> rfl

/-- A worker that is heard of ends now, or its run call goes on until then, or this call starts
and will end at its time. -/
theorem Scheduled.hear (hwidth : p.options.labelWidth ≤ maxLabelWidth) {host : Host Agenda}
    (hc : host.console.NeverRefuses) (hahead : host.world.Ahead) {heard : Heard Agenda}
    (hnext : host.world.next? = some heard) {c : Component} {stage : Stage}
    (h : Scheduled scripts p start heard.number ⟨c, stage⟩
      (Agenda.ofNumber heard.number host.world.appointments)) {turn : Turn Agenda}
    (hturn : Worker.hear (scriptedRunner scripts) p heard.number ⟨c, stage⟩ heard.news
      { host with world := heard.world } = turn) :
    (stage ≠ .waiting ∧ turn.stage ≠ .waiting) ∧
      Scheduled scripts p start heard.number ⟨c, turn.stage⟩
        (Agenda.ofNumber heard.number turn.host.world.appointments) ∧
      (turn.host.world = heard.world ∧ heard.world.now = start + endTime scripts p c ∨
        ∃ a, turn.host.world = heard.world.note a ∧ a.number = heard.number ∧
          Agenda.ofNumber heard.number heard.world.appointments = [] ∧
          a.time = start + endTime scripts p c ∧ heard.world.now ≤ a.time ∧
          RunPhase.Entry.isSeen ⟨heard.number, turn.trace, turn.farewell?⟩ = false) := by
  obtain ⟨-, -, a, own, hown, hnow, hnews⟩ := hahead.cases_of_next? hnext
  have hc' : { host with world := heard.world }.console.NeverRefuses := hc
  cases stage with
  | waiting => simp [Scheduled, hown] at h
  | done => simp [Scheduled, hown] at h
  | asking =>
      simp only [Scheduled, hown, List.cons.injEq] at h
      obtain ⟨rfl, rfl⟩ := h
      obtain ⟨_, -, hchunk, -⟩ | ⟨hnews, -, hrest⟩ := hnews
      · cases hchunk
      rw [hnews] at hturn
      cases hreply : (envScript scripts p c).reply with
      | fails code =>
          have hend : endTime scripts p c = (envScript scripts p c).delay := by
            simp [endTime, hreply]
          simp only [Script.result, hreply, Worker.hear, Worker.startRun] at hturn
          obtain rfl := hturn
          exact ⟨⟨by simp, by simp⟩, hrest, .inl ⟨rfl, hend ▸ hnow⟩⟩
      | succeeds =>
          have hend : endTime scripts p c =
              (envScript scripts p c).delay + (runScript scripts p c).delay := by
            simp [endTime, hreply]
          simp only [Script.result, hreply, Worker.hear, Worker.startRun_ok hwidth] at hturn
          obtain rfl := hturn
          obtain ⟨a, hnoted, hnumber, htime⟩ : ∃ a : Appointment,
              (scriptedRunner scripts).start heard.number
                  (p.runInvocation c (envScript scripts p c).output) heard.world =
                heard.world.note a ∧ a.number = heard.number ∧
              a.time = heard.world.now + (runScript scripts p c).delay := ⟨_, rfl, rfl, rfl⟩
          have hself := Agenda.ofNumber_note_self (hnumber ▸ hrest)
          rw [← hnoted, hnumber] at hself
          have hat : a.time = start + endTime scripts p c := by
            rw [htime, hnow, hend, Nat.add_assoc]
          exact ⟨⟨by simp, by simp⟩, ⟨a, hself, hat⟩,
            .inr ⟨a, hnoted, hnumber, hrest, hat, htime ▸ Nat.le_add_right _ _, rfl⟩⟩
  | running inv l =>
      obtain ⟨a', heq, htime⟩ := h
      simp only [hown, List.cons.injEq] at heq
      obtain ⟨rfl, rfl⟩ := heq
      obtain ⟨chunk, hnews, -, hrest⟩ | ⟨hnews, -, hrest⟩ := hnews
      · obtain ⟨console, -, hpassed⟩ :=
          Worker.passOn_of_neverRefuses hc' (scriptedRunner scripts) c inv l chunk
        rw [hnews] at hturn
        obtain rfl := hpassed.symm.trans hturn
        exact ⟨⟨by simp, by simp⟩, ⟨_, hrest, htime⟩, .inl ⟨rfl, hnow.trans htime⟩⟩
      · obtain ⟨console, -, hfinished⟩ :=
          Worker.finish_of_neverRefuses hc' (scriptedRunner scripts) c inv l a.result
        rw [hnews] at hturn
        obtain rfl := hfinished.symm.trans hturn
        exact ⟨⟨by simp, by simp⟩, hrest, .inl ⟨rfl, hnow.trans htime⟩⟩

theorem delay_mem_resumptions {c : Component} (h : 0 < (envScript scripts p c).delay) :
    (envScript scripts p c).delay ∈ resumptions scripts p c :=
  List.mem_filter.mpr ⟨by simp, decide_eq_true h⟩

theorem endTime_mem_resumptions {c : Component} (h : 0 < endTime scripts p c) :
    endTime scripts p c ∈ resumptions scripts p c :=
  List.mem_filter.mpr ⟨by simp, decide_eq_true h⟩

/-- The moment of a scheduled call that is still to come is one at which its worker resumes. -/
theorem Scheduled.resumes {number : Nat} {w : Worker} {own : List Appointment}
    (h : Scheduled scripts p start number w own) {a : Appointment} (ha : a ∈ own)
    (hlater : start < a.time) : ∃ t ∈ resumptions scripts p w.component, a.time = start + t := by
  obtain ⟨c, stage⟩ := w
  cases stage with
  | waiting => simp_all [Scheduled]
  | done => simp_all [Scheduled]
  | asking =>
      simp only [Scheduled] at h
      subst h
      obtain rfl := List.mem_singleton.mp ha
      exact ⟨_, delay_mem_resumptions (Nat.pos_of_lt_add_right hlater), rfl⟩
  | running inv l =>
      obtain ⟨b, rfl, htime⟩ := h
      obtain rfl := List.mem_singleton.mp ha
      exact ⟨_, endTime_mem_resumptions (Nat.pos_of_lt_add_right (htime ▸ hlater)), htime⟩

theorem delay_le_endTime (scripts : List Script) (p : Project) (c : Component) :
    (envScript scripts p c).delay ≤ endTime scripts p c :=
  Nat.le_add_right _ _

/-- A worker whose call is still running ends no earlier than the call. -/
theorem Scheduled.time_le {number : Nat} {w : Worker} {own : List Appointment}
    (h : Scheduled scripts p start number w own) (hbegun : w.stage ≠ .waiting)
    (hruns : w.stage ≠ .done) : ∃ a ∈ own, a.time ≤ start + endTime scripts p w.component := by
  obtain ⟨c, stage⟩ := w
  cases stage with
  | waiting => exact absurd rfl hbegun
  | done => exact absurd rfl hruns
  | asking =>
      simp only [Scheduled] at h
      subst h
      have := delay_le_endTime scripts p c
      exact ⟨_, List.mem_singleton_self _, by dsimp only; omega⟩
  | running inv l =>
      obtain ⟨a, rfl, htime⟩ := h
      exact ⟨a, List.mem_singleton_self _, Nat.le_of_eq htime⟩

theorem NoTies.ne (h : NoTies scripts p) {n m : Nat} {c c' : Component}
    (hc : p.components[n]? = some c) (hc' : p.components[m]? = some c') (hne : n ≠ m) {t t' : Nat}
    (ht : t ∈ resumptions scripts p c) (ht' : t' ∈ resumptions scripts p c') : t ≠ t' := by
  rintro rfl
  obtain ⟨hn, rfl⟩ := List.getElem?_eq_some_iff.mp hc
  obtain ⟨hm, rfl⟩ := List.getElem?_eq_some_iff.mp hc'
  rcases Nat.lt_or_gt_of_ne hne with hlt | hlt
  · exact List.pairwise_iff_getElem.mp h n m hn hm hlt t ht ht'
  · exact List.pairwise_iff_getElem.mp h m n hm hn hlt t ht' ht

end

/-- A phase that began at `start` is **on time**: every worker that has begun and not ended has one
call on the agenda, at its time, and as long as a worker waits, no time has passed. -/
structure OnTime (scripts : List Script) (p : Project) (start : Nat) (s : RunPhase.State Agenda) :
    Prop where
  neverRefuses : s.host.console.NeverRefuses
  component_eq : ∀ {n : Nat} {w : Worker}, s.workers[n]? = some w →
    p.components[n]? = some w.component
  start_le : start ≤ s.host.world.now
  ahead : s.host.world.Ahead
  number_lt : ∀ a ∈ s.host.world.appointments, a.number < s.workers.length
  scheduled : ∀ {n : Nat} {w : Worker}, s.workers[n]? = some w →
    Scheduled scripts p start n w (Agenda.ofNumber n s.host.world.appointments)
  waits : ∀ {n : Nat} {c : Component}, s.workers[n]? = some ⟨c, .waiting⟩ →
    s.host.world.now = start ∧
      ∀ {m : Nat} {w : Worker}, n < m → s.workers[m]? = some w → w.stage = .waiting

namespace OnTime

variable {scripts : List Script} {p : Project} {start : Nat} {s s' : RunPhase.State Agenda}

/-- What one worker notes when nothing is due keeps the agenda: at the moments at which it resumes,
no other worker does. -/
theorem ahead_note (h : OnTime scripts p start s) (hties : NoTies scripts p) {n : Nat}
    {c : Component} (hc : p.components[n]? = some c) {g : Agenda} (hg : g.Ahead)
    (hstart : start ≤ g.now) (hquiet : ∀ b ∈ g.appointments, g.now < b.time)
    (hothers : ∀ {m}, n ≠ m → Agenda.ofNumber m g.appointments =
      Agenda.ofNumber m s.host.world.appointments)
    (hnone : Agenda.ofNumber n g.appointments = []) {a : Appointment} (hle : g.now ≤ a.time)
    {t : Nat} (ht : 0 < t → t ∈ resumptions scripts p c) (htime : a.time = start + t) :
    (g.note a).Ahead := by
  refine hg.note hle hquiet fun b hb => ?_
  have hother := Agenda.number_ne_of_ofNumber hnone b hb
  have hown := hothers (Ne.symm hother) ▸ Agenda.mem_ofNumber.mpr ⟨hb, rfl⟩
  have hw := List.getElem?_eq_getElem (h.number_lt b (Agenda.mem_ofNumber.mp hown).1)
  have hlater := hquiet b hb
  obtain ⟨t', ht', htime'⟩ := (h.scheduled hw).resumes hown (by omega)
  intro heq
  obtain rfl : t' = t := by omega
  exact hties.ne (h.component_eq hw) hc hother ht' (ht (by omega)) rfl

/-- A worker that waits lets another one have a turn only if that takes no time, and then it comes
behind the other. -/
theorem waits_of_next? (h : OnTime scripts p start s) {heard : Heard Agenda}
    (hnext : s.host.world.next? = some heard)
    (hturn : (∀ w ∈ s.workers, w.stage ≠ .waiting) ∨ heard.atOnce = true) {w : Worker}
    (hw : s.workers[heard.number]? = some w) (hbegun : w.stage ≠ .waiting) {n : Nat}
    {c : Component} (hn : n ≠ heard.number) (hwaiting : s.workers[n]? = some ⟨c, .waiting⟩) :
    heard.world.now = start ∧ heard.number < n := by
  obtain ⟨hnow, hafter⟩ := h.waits hwaiting
  refine ⟨?_, Nat.lt_of_not_le fun hle => ?_⟩
  · rcases hturn with hnobody | hatOnce
    · exact absurd rfl (hnobody _ (List.mem_of_getElem? hwaiting))
    · rw [Agenda.now_of_atOnce hnext hatOnce, hnow]
  · exact hbegun (hafter (Nat.lt_of_le_of_ne hle hn) hw)

/-- A phase stays on time in a turn that is on time itself and changes nothing for the other
workers. -/
theorem turn (h : OnTime scripts p start s) {number : Nat} {w : Worker}
    (hw : s.workers[number]? = some w) {t : Turn Agenda} (hc : t.host.console.NeverRefuses)
    (hbegun : t.stage ≠ .waiting) (hstart : start ≤ t.host.world.now)
    (hahead : t.host.world.Ahead)
    (hown : Scheduled scripts p start number ⟨w.component, t.stage⟩
      (Agenda.ofNumber number t.host.world.appointments))
    (hothers : ∀ {m}, number ≠ m → Agenda.ofNumber m t.host.world.appointments =
      Agenda.ofNumber m s.host.world.appointments)
    (hwaits : ∀ {n c}, n ≠ number → s.workers[n]? = some ⟨c, .waiting⟩ →
      t.host.world.now = start ∧ number < n) :
    OnTime scripts p start (s.turn number w t).2 := by
  have hlt := (List.getElem?_eq_some_iff.mp hw).1
  have hself : (s.workers.set number ⟨w.component, t.stage⟩)[number]? =
      some ⟨w.component, t.stage⟩ := List.getElem?_set_self hlt
  have hother {n : Nat} (hn : number ≠ n) :
      (s.workers.set number ⟨w.component, t.stage⟩)[n]? = s.workers[n]? :=
    List.getElem?_set_ne hn
  refine ⟨hc, ?_, hstart, hahead, ?_, ?_, ?_⟩ <;> simp only [RunPhase.State.turn]
  · intro n v hv
    by_cases hn : number = n
    · subst hn
      obtain rfl := Option.some.inj (hself.symm.trans hv)
      exact (h.component_eq hw :)
    · exact h.component_eq ((hother hn).symm.trans hv)
  · intro a ha
    rw [List.length_set]
    by_cases hn : number = a.number
    · exact hn ▸ hlt
    · have hmem := hothers hn ▸ Agenda.mem_ofNumber.mpr ⟨ha, rfl⟩
      exact h.number_lt a (Agenda.mem_ofNumber.mp hmem).1
  · intro n v hv
    by_cases hn : number = n
    · subst hn
      obtain rfl := Option.some.inj (hself.symm.trans hv)
      exact hown
    · rw [hothers hn]
      exact h.scheduled ((hother hn).symm.trans hv)
  · intro n c hv
    have hn : number ≠ n := by
      rintro rfl
      exact hbegun (congrArg Worker.stage (Option.some.inj (hself.symm.trans hv)))
    have hwaiting := (hother hn).symm.trans hv
    obtain ⟨hnow, hbefore⟩ := hwaits (Ne.symm hn) hwaiting
    refine ⟨hnow, fun {m v} hm hv => ?_⟩
    exact (h.waits hwaiting).2 hm ((hother (by omega)).symm.trans hv)

/-- **The phase stays on time**, whatever happens next. -/
theorem step (h : OnTime scripts p start s) (hwidth : p.options.labelWidth ≤ maxLabelWidth)
    (hties : NoTies scripts p) {turn? : Option RunPhase.Entry}
    (hstep : RunPhase.Steps (scriptedRunner scripts) p s turn? s') : OnTime scripts p start s' := by
  have hview := scriptedRunner_separates scripts
  cases hstep with
  | @begins number c hw hfirst hquiet =>
      have hnone : Agenda.ofNumber number s.host.world.appointments = [] := h.scheduled hw
      have hlater := h.ahead.now_lt_of_quiet hquiet
      have hnow : s.host.world.now = start := (h.waits hw).1
      obtain ⟨a, hnoted, hnumber, htime, hown⟩ : ∃ a : Appointment,
          (Worker.askEnv (scriptedRunner scripts) p number c s.host).host.world =
            s.host.world.note a ∧ a.number = number ∧
          a.time = start + (envScript scripts p c).delay ∧
          Scheduled scripts p start number ⟨c, .asking⟩ [a] := by
        refine ⟨_, rfl, rfl, by rw [hnow]; rfl, ?_⟩
        rw [chunk?_envInvocation, hnow]
        rfl
      refine h.turn hw h.neverRefuses (by simp [Worker.askEnv]) h.start_le ?_ ?_
        (fun hm => hview.start_other _ hm) ?_
      · rw [hnoted]
        exact h.ahead_note hties (h.component_eq hw) h.ahead h.start_le hlater (fun _ => rfl) hnone
          (by omega) delay_mem_resumptions htime
      · rw [hnoted, ← hnumber, Agenda.ofNumber_note_self (hnumber ▸ hnone), hnumber]
        exact hown
      · intro n c' hn hwaiting
        refine ⟨hnow, Nat.lt_of_le_of_ne (Nat.le_of_not_lt fun hlt => ?_) (Ne.symm hn)⟩
        exact hfirst hlt hwaiting rfl
  | @hears heard w hnext hw hturn =>
      obtain ⟨c, stage⟩ := w
      obtain ⟨hahead, hlater, -⟩ := h.ahead.cases_of_next? hnext
      obtain ⟨⟨hbegun, hbegun'⟩, hown, hworld⟩ :=
        (h.scheduled hw).hear hwidth h.neverRefuses h.ahead hnext rfl
      have hc : { s.host with world := heard.world }.console.NeverRefuses := h.neverRefuses
      have hstart : start ≤ heard.world.now :=
        Nat.le_trans h.start_le (Agenda.now_le_of_next? hnext)
      have hwaits {n : Nat} {c' : Component} (hn : n ≠ heard.number)
          (hwaiting : s.workers[n]? = some ⟨c', .waiting⟩) :=
        h.waits_of_next? hnext hturn hw hbegun hn hwaiting
      refine h.turn hw (Worker.neverRefuses_hear hc ..) hbegun' ?_ ?_ hown
        (fun hm => hview.hear_other hnext hm p ⟨c, stage⟩) ?_
      all_goals obtain ⟨hworld, -⟩ | ⟨a, hworld, -, hnone, htime, hle, -⟩ := hworld
      all_goals rw [hworld]
      · exact hstart
      · exact hstart
      · exact hahead
      · have hquiet : ∀ b ∈ heard.world.appointments, heard.world.now < b.time :=
          fun b hb => hlater b hb (Agenda.number_ne_of_ofNumber hnone b hb)
        exact h.ahead_note hties (h.component_eq hw) hahead hstart hquiet
          (fun hm => hview.next_other hnext hm) hnone hle endTime_mem_resumptions htime
      · exact hwaits
      · exact hwaits
  | @passesOver heard hnext hnone =>
      obtain ⟨a, others, ha, hnumber, -⟩ := Agenda.cases_of_next? hnext
      have hlt := h.number_lt a (ha ▸ List.mem_cons_self ..)
      rw [List.getElem?_eq_getElem (hnumber ▸ hlt)] at hnone
      cases hnone

/-- After a turn of which something is seen, the worker ends now, and all others that have not ended
yet end after it. -/
theorem endsBefore_of_seen (h : OnTime scripts p start s)
    (hwidth : p.options.labelWidth ≤ maxLabelWidth) (hties : NoTies scripts p)
    {e : RunPhase.Entry} (hstep : RunPhase.Steps (scriptedRunner scripts) p s (some e) s')
    (hseen : e.isSeen) {m : Nat} {w : Worker} (hm : s'.workers[m]? = some w)
    (hruns : w.stage ≠ .done) (hother : e.number ≠ m) : Precedes scripts p e.number m := by
  have h' := h.step hwidth hties hstep
  cases hstep with
  | begins hw hfirst hquiet => cases hseen
  | @hears heard v hnext hw hturn =>
      obtain ⟨c, stage⟩ := v
      obtain ⟨-, hlater, -⟩ := h.ahead.cases_of_next? hnext
      obtain ⟨⟨-, hbegun⟩, -, ⟨hworld, hend⟩ | ⟨a, -, -, -, -, -, hunseen⟩⟩ :=
        (h.scheduled hw).hear hwidth h.neverRefuses h.ahead hnext rfl
      swap
      · simp [hunseen] at hseen
      refine ⟨c, w.component, h.component_eq hw, h'.component_eq hm, ?_⟩
      by_cases hwaits : w.stage = .waiting
      · -- No time has passed, and only later workers still wait.
        obtain ⟨c', stage'⟩ := w
        obtain rfl : stage' = .waiting := hwaits
        obtain ⟨hnow, hafter⟩ := h'.waits hm
        have hlt : heard.number < m := by
          refine Nat.lt_of_not_le fun hle => hbegun ?_
          exact hafter (Nat.lt_of_le_of_ne hle (Ne.symm hother))
            (List.getElem?_set_self (List.getElem?_eq_some_iff.mp hw).1)
        have hnow' : heard.world.now = start := hworld ▸ hnow
        unfold EndsBefore
        dsimp only
        omega
      · -- The call of the other is still to come.
        obtain ⟨a, ha, hle⟩ := (h'.scheduled hm).time_le hwaits hruns
        obtain ⟨hmem, rfl⟩ := Agenda.mem_ofNumber.mp ha
        have hlt := hlater a (hworld ▸ hmem) (Ne.symm hother)
        left
        dsimp only
        omega

/-- What is seen of the workers from now on is seen in the order of their ends, each worker's part
in one piece, and only of workers that have not ended. -/
theorem pairwise_record (h : OnTime scripts p start s)
    (hwidth : p.options.labelWidth ≤ maxLabelWidth) (hties : NoTies scripts p) :
    (∀ e ∈ (RunPhase.record (scriptedRunner scripts) p s).1, e.isSeen →
        ∃ w, s.workers[e.number]? = some w ∧ w.stage ≠ .done) ∧
      (RunPhase.record (scriptedRunner scripts) p s).1.Pairwise fun e e' =>
        e.isSeen → e'.isSeen → e.number = e'.number ∨ Precedes scripts p e.number e'.number := by
  induction s using RunPhase.record_induction with
  | stops s hover => exact ⟨by simp, .nil⟩
  | goes s turn? s' entries host hstep ih =>
      have h' := h.step hwidth hties hstep
      obtain ⟨hruns, hordered⟩ := ih h'
      refine ⟨fun e he hseen => ?_, List.pairwise_append.mpr ⟨?_, hordered, ?_⟩⟩
      · rcases List.mem_append.mp he with he | he
        · obtain rfl := Option.mem_toList.mp he
          exact hstep.not_done_of_seen hseen
        · obtain ⟨w, hw, hnotdone⟩ := hruns e he hseen
          exact hstep.not_done hw hnotdone
      · cases turn? <;> simp
      · intro e he e' he' hseen hseen'
        obtain rfl := Option.mem_toList.mp he
        obtain ⟨w, hw, hnotdone⟩ := hruns e' he' hseen'
        by_cases hsame : e.number = e'.number
        · exact .inl hsame
        · exact .inr (h.endsBefore_of_seen hwidth hties hstep hseen hw hnotdone hsame)

/-- A phase begins on time. -/
theorem start_of_idle {host : Host Agenda} (hidle : host.world.appointments = [])
    (hc : host.console.NeverRefuses) (scripts : List Script) (p : Project) :
    OnTime scripts p host.world.now (.start p host) := by
  have hstage {n : Nat} {w : Worker} (hw : (RunPhase.State.start p host).workers[n]? = some w) :
      p.components[n]? = some w.component ∧ w.stage = .waiting := by
    obtain ⟨c, hc, rfl⟩ := Option.map_eq_some_iff.mp ((List.getElem?_map ..).symm.trans hw)
    exact ⟨hc, rfl⟩
  refine ⟨hc, fun hw => (hstage hw).1, Nat.le_refl _, ⟨?_, ?_⟩, ?_, fun {n w} hw => ?_, ?_⟩
  · simp [RunPhase.State.start, hidle]
  · simp [RunPhase.State.start, hidle]
  · simp [RunPhase.State.start, hidle]
  · obtain ⟨-, hwaiting⟩ := hstage hw
    simp [Scheduled, hwaiting, RunPhase.State.start, hidle, Agenda.ofNumber]
  · exact fun _ => ⟨rfl, fun _ hw => (hstage hw).2⟩

end OnTime

/-! ### From the ends to the whole record -/

section

variable {scripts : List Script} {p : Project}

instance : Std.Total (EndsNoLater scripts p) where
  total := by
    intro a b
    unfold EndsNoLater
    omega

instance : IsTrans _ (EndsNoLater scripts p) where
  trans := by
    intro a b c
    unfold EndsNoLater
    omega

theorem mem_endOrder {x : Component × Nat} :
    x ∈ endOrder scripts p ↔ p.components[x.2]? = some x.1 :=
  (List.perm_insertionSort _ _).mem_iff.trans List.mem_zipIdx_iff_getElem?

theorem forall_mem_endOrder {q : Component → Prop} :
    (∀ x ∈ endOrder scripts p, q x.1) ↔ ∀ c ∈ p.components, q c := by
  constructor
  · intro h c hc
    obtain ⟨n, hn⟩ := List.mem_iff_getElem?.mp hc
    exact h (c, n) (mem_endOrder.mpr hn)
  · intro h x hx
    exact h x.1 (List.mem_of_getElem? (mem_endOrder.mp hx))

theorem pairwise_endOrder : (endOrder scripts p).Pairwise (EndsBefore scripts p) := by
  have hsorted : (endOrder scripts p).Pairwise (EndsNoLater scripts p) :=
    List.pairwise_insertionSort _ _
  -- No two components have the same place.
  have hplaces : ((endOrder scripts p).map (·.2)).Nodup := by
    refine ((List.perm_insertionSort _ _).map _).nodup_iff.mpr ?_
    rw [List.zipIdx_map_snd]
    exact List.nodup_range' 1
  refine (hsorted.and (List.pairwise_map.mp hplaces)).imp fun {a b} ⟨hle, hne⟩ => ?_
  unfold EndsNoLater at hle
  unfold EndsBefore
  omega

theorem EndsBefore.asymm {a b : Component × Nat} (h : EndsBefore scripts p a b) :
    ¬ EndsBefore scripts p b a := by
  unfold EndsBefore at *
  omega

/-- No place comes in the order behind another one that it precedes. -/
theorem places_endOrder :
    (endOrder scripts p).Pairwise fun a b => b.2 ≠ a.2 ∧ ¬ Precedes scripts p b.2 a.2 := by
  refine pairwise_endOrder.imp_of_mem fun {a b} ha hb h => ?_
  have ha := mem_endOrder.mp ha
  have hb := mem_endOrder.mp hb
  refine ⟨fun hsame => ?_, fun ⟨c, c', hc, hc', hbefore⟩ => ?_⟩
  · obtain rfl : a = b := Prod.ext (Option.some.inj (ha.symm.trans (hsame ▸ hb))) hsame.symm
    exact h.asymm h
  · obtain rfl : c = b.1 := Option.some.inj (hc.symm.trans hb)
    obtain rfl : c' = a.1 := Option.some.inj (hc'.symm.trans ha)
    exact h.asymm hbefore

end

/-- What a scripted runner answers an invocation. -/
def Script.answer (scripts : List Script) (inv : Invocation) : Except Fault String :=
  (Script.find scripts inv.command).result inv.command

/-- Some output as it stands on the console: each line behind the tag and ended by a line feed, the
last one too if it was not. -/
def Labeller.rendered (tag : String) (output : Text.Bytes) : Text.Bytes :=
  (Text.cutAfter Text.lineFeed output).flatMap fun line =>
    Text.Utf8.encode tag ++ line ++ if Text.lineFeed ∈ line then [] else [Text.lineFeed]

namespace Worker

variable {scripts : List Script} {p : Project} {c : Component}

/-- A worker's end is a success exactly if both its calls succeed. -/
theorem outcome_eq_ok_iff :
    outcome p c (Script.answer scripts) = .ok () ↔ Succeeds scripts p c := by
  have henv : Script.answer scripts (p.envInvocation c) =
    (envScript scripts p c).result (p.envInvocation c).command := rfl
  have hrun (printed : String) : Script.answer scripts (p.runInvocation c printed) =
    (runScript scripts p c).result (p.runInvocation c printed).command := rfl
  cases hreply : (envScript scripts p c).reply with
  | fails code => simp [outcome, henv, Script.result, Succeeds, hreply]
  | succeeds =>
      cases hreply' : (runScript scripts p c).reply <;>
        simp [outcome, henv, hrun, Script.result, Succeeds, hreply, hreply', verdict]

end Worker

namespace RunPhase

variable {scripts : List Script} {p : Project} {host : Host Agenda}

/-- What is read off the turns, as far as they are seen, is read off the shares in the order in
which the workers end. -/
theorem flatMap_turns (hwidth : p.options.labelWidth ≤ maxLabelWidth) (hties : NoTies scripts p)
    (hidle : host.world.appointments = []) (hc : host.console.NeverRefuses) {f : Entry → List β}
    (hf : ∀ e : Entry, e.isSeen = false → f e = []) :
    (turns (scriptedRunner scripts) p host).flatMap f = (endOrder scripts p).flatMap fun x =>
      (share x.2 (turns (scriptedRunner scripts) p host)).flatMap f := by
  have hordered := ((OnTime.start_of_idle hidle hc scripts p).pairwise_record hwidth hties).2
  change (turns (scriptedRunner scripts) p host).Pairwise _ at hordered
  have hlt : ∀ e ∈ turns (scriptedRunner scripts) p host, e.number < p.components.length :=
    number_lt_length_components
  generalize turns (scriptedRunner scripts) p host = entries at hordered hlt ⊢
  have hshares : ((endOrder scripts p).map (·.2)).flatMap (share · (entries.filter Entry.isSeen)) =
      entries.filter Entry.isSeen := by
    refine flatMap_share ?_ (List.pairwise_map.mpr places_endOrder) ?_
    · intro e he
      have hn := hlt e (List.mem_filter.mp he).1
      exact List.mem_map.mpr ⟨(_, e.number), mem_endOrder.mpr (List.getElem?_eq_getElem hn), rfl⟩
    · refine (hordered.filter _).imp_of_mem fun he he' hseen => ?_
      exact hseen (List.mem_filter.mp he).2 (List.mem_filter.mp he').2
  rw [← flatMap_filter_of_eq_nil hf, ← hshares, List.flatMap_assoc, List.flatMap_map]
  refine List.flatMap_congr fun x _ => ?_
  rw [share, List.filter_comm, flatMap_filter_of_eq_nil hf]
  rfl

/-- What a phase reports, told by the times at which its workers end. -/
structure Reports (scripts : List Script) (p : Project) (before : Text.Bytes)
    (o : Outcome Agenda) : Prop where
  /-- It succeeds exactly if all calls do. -/
  ok_iff : o.result = .ok () ↔ ∀ c ∈ p.components, Succeeds scripts p c
  /-- Otherwise it ends like the worker that, of those that fail, ends first. -/
  first_failure : ¬(∀ c ∈ p.components, Succeeds scripts p c) → ∃ x failure,
    FailsFirst scripts p x ∧
      Worker.outcome p x.1 (Script.answer scripts) = .error failure ∧ o.result = .error failure
  /-- The console shows the output of each run call that was started, one behind the other in the
  order of the ends, and every line behind the label of its component. -/
  console_eq : o.host.console.bytes = before ++
    ((endOrder scripts p).filter fun x => (envScript scripts p x.1).reply = .succeeds).flatMap
      fun x => Labeller.rendered (Labeller.tagOf x.1.name p.options.labelWidth)
        (Text.Utf8.encode (runScript scripts p x.1).output)

section

variable (hwidth : p.options.labelWidth ≤ maxLabelWidth) (hties : NoTies scripts p)
  (hidle : host.world.appointments = []) (hc : host.console.NeverRefuses)

include hwidth hidle hc

/-- The worker of each place gives its whole account. -/
theorem share_of_mem_endOrder {x : Component × Nat} (hx : x ∈ endOrder scripts p) :
    deeds (share x.2 (turns (scriptedRunner scripts) p host)) = Worker.account p x.1
        (fun inv => ((Script.find scripts inv.command).chunk? inv).toList)
        (Script.answer scripts) ∧
      farewells (share x.2 (turns (scriptedRunner scripts) p host)) =
        [⟨x.1.name, Worker.outcome p x.1 (Script.answer scripts)⟩] := by
  obtain ⟨c, n⟩ := x
  obtain ⟨i, hi, rfl⟩ := Option.map_eq_some_iff.mp
    ((List.getElem?_map ..).symm.trans (mem_endOrder.mp hx))
  refine share_turns (scriptedRunner_answers scripts) hwidth hc (fun number => ?_) hi
  simp [Agenda.due, Agenda.ofNumber, hidle]

include hties

/-- The workers end in the order of their times. -/
theorem farewells_turns : farewells (turns (scriptedRunner scripts) p host) =
    (endOrder scripts p).map fun x =>
      ⟨x.1.name, Worker.outcome p x.1 (Script.answer scripts)⟩ := by
  have hunseen : ∀ e : Entry, e.isSeen = false → e.farewell?.toList = [] := by
    intro e he
    simp only [Entry.isSeen, Bool.or_eq_false_iff, Option.isSome_eq_false_iff,
      Option.isNone_iff_eq_none] at he
    rw [he.1, Option.toList_none]
  rw [farewells, List.filterMap_eq_flatMap_toList, flatMap_turns hwidth hties hidle hc hunseen,
    List.map_eq_flatMap]
  refine List.flatMap_congr fun x hx => ?_
  rw [← List.filterMap_eq_flatMap_toList]
  exact (share_of_mem_endOrder hwidth hidle hc hx).2

theorem result_eq_ok_iff : (runAll (scriptedRunner scripts) p host).result = .ok () ↔
    ∀ c ∈ p.components, Succeeds scripts p c := by
  refine verdict_eq_ok_iff.trans ?_
  change (∀ f ∈ farewells (turns (scriptedRunner scripts) p host), _) ↔ _
  simp only [farewells_turns hwidth hties hidle hc, List.forall_mem_map, Worker.outcome_eq_ok_iff]
  exact forall_mem_endOrder

end

end RunPhase

end Ensemble
