import Ensemble.Proofs.Gating

/-!
# Ensemble.Proofs.RunCalls

**The calls of a worker**, with any runner whatever. A worker of the run phase makes its environment
call first, and this one always. If it makes another call, that is the run call that belongs to what
its environment call was answered (`RunPhase.calls_share`).

Nothing is asked of the runner here: it may answer what was never started, or not answer at all. So
there is nothing that it could hold for a worker, and the stage alone tells which calls are still to
come (`Worker.CallsToCome`).
-/

namespace Ensemble

/-- Any runner holds nothing for any number. -/
theorem Runner.separates_unit (r : Runner σ) : r.Separates fun _ _ => () :=
  ⟨fun _ _ => rfl, fun _ _ => rfl⟩

namespace Worker

/-- What is called behind the environment call: the run call for what that one was answered, or
nothing. -/
def RunsAfter (p : Project) (c : Component) (calls : List Invocation)
    (answers : List Answered) : Prop :=
  calls = [] ∨
    ∃ printed, calls = [p.runInvocation c printed] ∧ (p.envInvocation c, .ok printed) ∈ answers

/-- The calls that are still to come from a worker in its stage. -/
def CallsToCome (p : Project) (c : Component) (stage : Stage)
    (entries : List RunPhase.Entry) : Prop :=
  let calls := Event.calls (RunPhase.deeds entries)
  let answers := Event.answers (RunPhase.deeds entries)
  match stage with
  | .waiting => ∃ behind, calls = p.envInvocation c :: behind ∧ RunsAfter p c behind answers
  | .asking => RunsAfter p c calls answers
  | .running _ _ | .done => calls = []

variable {p : Project} {c : Component}

theorem callsToCome_nil {stage : Stage} (h : stage ≠ .waiting) : CallsToCome p c stage [] := by
  cases stage with
  | waiting => exact absurd rfl h
  | asking => exact .inl rfl
  | running inv l => rfl
  | done => rfl

/-- A turn in which nothing is called, and behind which nothing will be. -/
theorem calls_eq_nil {e : RunPhase.Entry} {entries : List RunPhase.Entry}
    (h : Event.calls e.trace = []) (h' : Event.calls (RunPhase.deeds entries) = []) :
    Event.calls (RunPhase.deeds (e :: entries)) = [] := by
  rw [RunPhase.deeds_cons, Event.calls_append, h, h', List.append_nil]

/-- The end of the environment call is followed by the run call for what it printed, or by nothing
more. -/
theorem runsAfter_startRun (r : Runner σ) (number : Nat) (answer : Except Fault String)
    (host : Host σ) {entries : List RunPhase.Entry} {turn : Turn σ}
    (hturn : startRun r p number c answer host = turn) (h : CallsToCome p c turn.stage entries) :
    RunsAfter p c (Event.calls (RunPhase.deeds (⟨number, turn.trace, turn.farewell?⟩ :: entries)))
      (Event.answers (RunPhase.deeds (⟨number, turn.trace, turn.farewell?⟩ :: entries))) := by
  cases answer with
  | error fault =>
      obtain rfl := hturn
      exact .inl (calls_eq_nil rfl h)
  | ok printed =>
      unfold startRun at hturn
      dsimp only at hturn
      split at hturn <;> obtain rfl := hturn
      · exact .inl (calls_eq_nil rfl h)
      · refine .inr ⟨printed, ?_, ?_⟩
        · rw [RunPhase.deeds_cons, Event.calls_append, h]
          rfl
        · rw [RunPhase.deeds_cons, Event.answers_append]
          exact List.mem_append_left _ List.mem_cons_self

/-- A worker that is heard of makes the calls that were still to come. -/
theorem callsToCome_hear (r : Runner σ) (number : Nat) (stage : Stage) (news : News)
    (host : Host σ) {entries : List RunPhase.Entry} {turn : Turn σ}
    (hturn : hear r p number ⟨c, stage⟩ news host = turn)
    (h : CallsToCome p c turn.stage entries) :
    CallsToCome p c stage (⟨number, turn.trace, turn.farewell?⟩ :: entries) := by
  cases stage with
  | waiting =>
      obtain rfl := hturn
      exact h
  | done =>
      obtain rfl := hturn
      exact h
  | asking =>
      cases news with
      | chunk chunk =>
          obtain rfl := hturn
          exact h
      | ended answer => exact runsAfter_startRun r number answer host hturn h
  | running inv l =>
      cases news with
      | chunk chunk =>
          rcases passOn_cases r c inv l chunk host with
            ⟨reply, hstage, hcalls, -, -⟩ | ⟨l', trace, console, hcalls, -, hpassed⟩
          · obtain rfl : passOn r c inv l chunk host = turn := hturn
            rw [hstage] at h
            exact calls_eq_nil hcalls h
          · obtain rfl := hpassed.symm.trans hturn
            exact calls_eq_nil hcalls h
      | ended result =>
          obtain ⟨reply, hstage, hcalls, -, -⟩ := finish_ends r c inv l result host
          obtain rfl : finish r c inv l result host = turn := hturn
          rw [hstage] at h
          exact calls_eq_nil hcalls h

theorem callsToCome_share (r : Runner σ) {s : RunPhase.State σ} {number : Nat} {stage : Stage}
    (hw : s.workers[number]? = some ⟨c, stage⟩) :
    CallsToCome p c stage (RunPhase.share number (RunPhase.record r p s).1) := by
  have hinv : ∀ {s turn? s'}, RunPhase.Steps r p s turn? s' → True → True := fun _ h => h
  refine RunPhase.share_induction (motive := fun stage _ entries => CallsToCome p c stage entries)
    r.separates_unit hinv ?_ ?_ ?_ trivial hw
  · intro world stage _ hstage
    exact callsToCome_nil hstage
  · intro s entries _ turn h
    exact ⟨_, rfl, h⟩
  · intro s stage heard entries _ _ _ turn h
    exact callsToCome_hear r number stage heard.news _ rfl h

end Worker

/-- **The calls of a worker** are its environment call, and at most the run call that belongs to
what that one was answered. -/
theorem RunPhase.calls_share (r : Runner σ) {p : Project} (host : Host σ) {number : Nat}
    {c : Component} (h : p.components[number]? = some c) :
    let own := share number (turns r p host)
    ∃ behind, Event.calls (deeds own) = p.envInvocation c :: behind ∧
      Worker.RunsAfter p c behind (Event.answers (deeds own)) :=
  Worker.callsToCome_share r (getElem?_start host h)

/-- Every component is asked for its environment. -/
theorem RunPhase.envInvocation_mem_calls (r : Runner σ) {p : Project} (host : Host σ) {k : Nat}
    {c : Component} (hc : p.components[k]? = some c) :
    p.envInvocation c ∈ Event.calls (runAll r p host).trace := by
  obtain ⟨behind, hcalls, -⟩ := calls_share r host hc
  have hown : p.envInvocation c ∈ Event.calls (deeds (share k (turns r p host))) :=
    hcalls ▸ List.mem_cons_self
  have hsublist : (Event.calls (deeds (share k (turns r p host)))).Sublist
      (Event.calls (deeds (turns r p host))) := (deeds_share_sublist k _).filterMap Event.call?
  exact (calls_tell false _).symm ▸ hsublist.mem hown

end Ensemble
