import Ensemble.Dispatch
import Ensemble.Proofs.RunRecord
import Ensemble.ScriptedRunner

/-!
# Ensemble.Proofs.Gating

**What a command of the program runs, and when it goes on.** The checks, and the phases build, test
and clean, are lists of *errands*, done one by one up to the first that fails (`UpToFailure`). The
run phase makes for each component an environment call, and a run call if it succeeds (`Ran`).
`Gated` puts these together: it tells which calls a command makes, in which order, and what its
result is. The main result, `dispatch_gated`, says that this is so for every runner that answers
what it has started, whatever it answers, so the answers may depend on all that was called before.

A command is taken apart once, for any runner (`Dispatched`): which of its parts are carried out,
and what becomes of it by what becomes of them.

Errands are followed by induction on their list. A worker of the run phase is followed by induction
on its own turns (`RunPhase.share_induction`): as long as its command is running, the runner owes it
an answer (`Worker.Owed`).
-/

namespace Ensemble

/-- A call, and what was answered. -/
abbrev Answered := Invocation × Except Fault String

/-! ### Errands -/

/-- A call that stands in a list of such, and what becomes of it when it is answered. -/
structure Errand where
  inv : Invocation
  verdict : Except Fault String → Except Failure Unit

/-- A check as an errand. -/
def Check.errand (c : Check) : Errand :=
  ⟨c.invocation, c.verdict⟩

/-- A component's part of a phase that takes one component at a time, as an errand. -/
def Project.errand (p : Project) (phase : Phase) (c : Component) : Errand where
  inv := p.phaseInvocation phase c
  verdict
    | .ok _ => .ok ()
    | .error fault => .error ((Failure.ofFault fault).within (phaseContext phase c))

/-- Errands are done in order, up to and including the first that fails: what was called and
answered, and the result. -/
inductive UpToFailure : List Errand → List Answered → Except Failure Unit → Prop
  | done : UpToFailure [] [] (.ok ())
  | goesOn {e : Errand} {reply : Except Fault String} {errands : List Errand}
    {answers : List Answered} {result : Except Failure Unit} (h : e.verdict reply = .ok ())
    (rest : UpToFailure errands answers result) :
    UpToFailure (e :: errands) ((e.inv, reply) :: answers) result
  | stops {e : Errand} {reply : Except Fault String} {errands : List Errand} {failure : Failure}
    (h : e.verdict reply = .error failure) :
    UpToFailure (e :: errands) [(e.inv, reply)] (.error failure)

namespace UpToFailure

variable {errands : List Errand} {answers : List Answered} {result : Except Failure Unit}

/-- If nothing fails, every errand is done. -/
theorem calls_of_ok (h : UpToFailure errands answers result) (hresult : result = .ok ()) :
    answers.map (·.1) = errands.map (·.inv) := by
  induction h with
  | done => rfl
  | goesOn hok rest ih => rw [List.map_cons, List.map_cons, ih hresult]
  | stops hfails => cases hresult

/-- If nothing fails, every answer is accepted. -/
theorem verdict_of_ok (h : UpToFailure errands answers result) (hresult : result = .ok ()) {k : Nat}
    {e : Errand} {a : Answered} (he : errands[k]? = some e) (ha : answers[k]? = some a) :
    e.verdict a.2 = .ok () := by
  induction h generalizing k with
  | done => cases he
  | goesOn hok rest ih =>
      cases k with
      | zero =>
          cases he
          cases ha
          exact hok
      | succ k => exact ih hresult he ha
  | stops hfails => cases hresult

/-- If something fails, it was answered last. -/
theorem exists_of_error {failure : Failure} (h : UpToFailure errands answers result)
    (hresult : result = .error failure) :
    ∃ (k : Nat) (e : Errand) (a : Answered),
      errands[k]? = some e ∧ answers[k]? = some a ∧ e.verdict a.2 = .error failure := by
  induction h with
  | done => cases hresult
  | goesOn hok rest ih =>
      obtain ⟨k, e, a, he, ha, hfails⟩ := ih hresult
      exact ⟨k + 1, e, a, he, ha, hfails⟩
  | stops hfails =>
      cases hresult
      exact ⟨0, _, _, rfl, rfl, hfails⟩

/-- If every answer is accepted, nothing fails. -/
theorem ok_of_verdict (h : UpToFailure errands answers result)
    (hall : ∀ {k : Nat} {e : Errand} {a : Answered}, errands[k]? = some e → answers[k]? = some a →
      e.verdict a.2 = .ok ()) :
    result = .ok () := by
  cases hresult : result with
  | ok => rfl
  | error failure =>
      obtain ⟨k, e, a, he, ha, hfails⟩ := h.exists_of_error hresult
      rw [hall he ha] at hfails
      cases hfails

end UpToFailure

/-- An action does errands, and makes no other calls. -/
structure Outcome.Does (o : Outcome σ) (errands : List Errand) : Prop where
  upToFailure : UpToFailure errands (Event.answers o.trace) o.result
  calls_eq : Event.calls o.trace = (Event.answers o.trace).map (·.1)

namespace Outcome

variable {o : Outcome σ} {errands : List Errand}

theorem does_done (host : Host σ) : (done host).Does [] :=
  ⟨.done, rfl⟩

/-- An errand is done first and the others after it. -/
theorem does_cons {e : Errand} {reply : Except Fault String} {next : Action σ}
    (hcalls : Event.calls o.trace = [e.inv]) (hanswers : Event.answers o.trace = [(e.inv, reply)])
    (hresult : o.result = e.verdict reply) (hnext : ∀ host, (next host).Does errands) :
    (o.andThen next).Does (e :: errands) := by
  cases hverdict : e.verdict reply with
  | error failure =>
      rw [andThen_of_error (hresult.trans hverdict)]
      constructor
      · rw [hanswers, hresult, hverdict]
        exact .stops hverdict
      · rw [hcalls, hanswers]
        rfl
  | ok =>
      obtain ⟨hrest, hrestCalls⟩ := hnext o.host
      rw [andThen_of_ok (hresult.trans hverdict)]
      constructor
      · rw [trace_after, Event.answers_append, hanswers, result_after]
        exact .goesOn hverdict hrest
      · rw [trace_after, Event.calls_append, Event.answers_append, hcalls, hanswers, hrestCalls]
        rfl

/-- Errands that were done have been done whatever is told behind them. -/
theorem Does.andThen_tell (h : o.Does errands) {next : Action σ}
    (hresult : ∀ host, (next host).result = .ok ())
    (hcalls : ∀ host, Event.calls (next host).trace = [])
    (hanswers : ∀ host, Event.answers (next host).trace = []) : (o.andThen next).Does errands := by
  obtain ⟨hdone, hdoneCalls⟩ := h
  cases ho : o.result with
  | error failure =>
      rw [andThen_of_error ho]
      exact ⟨hdone, hdoneCalls⟩
  | ok =>
      rw [andThen_of_ok ho]
      constructor
      · rw [trace_after, Event.answers_append, hanswers, List.append_nil, result_after, hresult,
          ← ho]
        exact hdone
      · rw [trace_after, Event.calls_append, Event.answers_append, hcalls, hanswers,
          List.append_nil, List.append_nil]
        exact hdoneCalls

end Outcome

theorem runChecks_does (r : Runner σ) (checks : List Check) (host : Host σ) :
    (runChecks r checks host).Does (checks.map Check.errand) := by
  induction checks generalizing host with
  | nil => exact Outcome.does_done host
  | cons c checks ih =>
      exact Outcome.does_cons (r.calls_perform c.invocation host)
        (r.answers_perform c.invocation host) rfl ih

/-- That all checks have passed is told without another call. -/
theorem checkAll_does (r : Runner σ) (checks : List Check) (host : Host σ) :
    (checkAll r checks host).Does (checks.map Check.errand) := by
  refine (runChecks_does r checks host).andThen_tell ?_ ?_ ?_ <;> intro host <;> split <;> rfl

/-- A component's part of a phase makes its call. -/
theorem runComponent_does (r : Runner σ) (p : Project) (phase : Phase) (c : Component)
    (host : Host σ) :
    let o := runComponent r p phase c host
    let reply := (r.perform (p.phaseInvocation phase c) host).1
    Event.calls o.trace = [p.phaseInvocation phase c] ∧
      Event.answers o.trace = [(p.phaseInvocation phase c, reply)] ∧
      o.result = (p.errand phase c).verdict reply := by
  intro o reply
  have hcalls := r.calls_perform (p.phaseInvocation phase c) host
  have hanswers := r.answers_perform (p.phaseInvocation phase c) host
  unfold o reply runComponent
  dsimp only
  split <;> rename_i hreply
  · -- What is told before and behind the call is neither a call nor an answer.
    refine ⟨(Event.calls_append _ _).trans ((List.append_nil _).trans hcalls),
      (Event.answers_append _ _).trans ((List.append_nil _).trans hanswers), ?_⟩
    rw [hreply]
    rfl
  · refine ⟨hcalls, hanswers, ?_⟩
    rw [hreply]
    rfl

theorem runInOrder_does (r : Runner σ) (p : Project) (phase : Phase) (components : List Component)
    (host : Host σ) :
    (runInOrder r p phase components host).Does (components.map (p.errand phase)) := by
  induction components generalizing host with
  | nil => exact Outcome.does_done host
  | cons c components ih =>
      obtain ⟨hcalls, hanswers, hresult⟩ := runComponent_does r p phase c host
      exact Outcome.does_cons hcalls hanswers hresult ih

theorem runPhaseInOrder_does (r : Runner σ) (p : Project) (phase : Phase) (host : Host σ) :
    (runPhaseInOrder r p phase host).Does (p.components.map (p.errand phase)) :=
  runInOrder_does r p phase p.components host

/-! ### The run phase -/

/-- A runner that answers what it has started: a command is running until its end is heard, and as
long as any is running, something will be heard. -/
structure Runner.Responds (r : Runner σ) (running : σ → Nat → Prop) : Prop
    extends r.Separates running where
  start_self : ∀ {world number} (inv : Invocation), running (r.start number inv world) number
  next_chunk : ∀ {world heard chunk}, r.next? world = some heard → heard.news = .chunk chunk →
    running world heard.number → running heard.world heard.number
  next_none : ∀ {world number}, r.next? world = none → ¬running world number

namespace Agenda

/-- Is the command of a number running? -/
def Running (g : Agenda) (number : Nat) : Prop :=
  ∃ a ∈ g.appointments, a.number = number

end Agenda

/-- A scripted runner answers what it has started. -/
theorem scriptedRunner_responds (scripts : List Script) :
    (scriptedRunner scripts).Responds Agenda.Running where
  start_other := by
    intro world number other inv hne
    refine propext ⟨fun ⟨a, ha, hother⟩ => ?_, fun ⟨a, ha, hother⟩ => ?_⟩
    · rcases Agenda.mem_note.mp ha with rfl | ha
      · exact absurd hother hne
      · exact ⟨a, ha, hother⟩
    · exact ⟨a, Agenda.mem_note.mpr (.inr ha), hother⟩
  next_other := by
    intro world heard other hnext hne
    obtain ⟨a, others, ha, hnumber, ⟨c, -, -, hothers⟩ | ⟨-, -, hothers⟩⟩ :=
      Agenda.cases_of_next? hnext
    · simp [Agenda.Running, ha, hothers, hnumber ▸ hne]
    · simp [Agenda.Running, ha, hothers, hnumber ▸ hne]
  start_self := fun inv => ⟨_, Agenda.mem_note.mpr (.inl rfl), rfl⟩
  next_chunk := by
    intro world heard chunk hnext hnews _
    obtain ⟨a, others, -, hnumber, ⟨c, -, -, hothers⟩ | ⟨-, hended, -⟩⟩ :=
      Agenda.cases_of_next? hnext
    · exact ⟨{ a with chunk? := none }, by simp [hothers], hnumber.symm⟩
    · rw [hnews] at hended
      cases hended
  next_none := by
    rintro world number hnext ⟨a, ha, -⟩
    rw [Agenda.appointments_of_next? hnext] at ha
    cases ha

/-- What the worker of a component has called and been answered, and how it has ended. -/
inductive Ran (p : Project) (c : Component) : List Answered → Except Failure Unit → Prop
  | noEnv (fault : Fault) :
    Ran p c [(p.envInvocation c, .error fault)] (.error (Worker.envFailure c fault))
  | ran (printed : String) (reply : Except Fault String) :
    Ran p c [(p.envInvocation c, .ok printed), (p.runInvocation c printed, reply)]
      (Worker.verdict c reply)

namespace Worker

/-- Passing on output calls nothing and answers nothing. -/
theorem filterMap_told {f : Event → Option β} (hlabelled : ∀ line, f (.labelled line) = none)
    (hrefused : ∀ fault, f (.refused fault) = none) (earlier console : Console)
    (result : Except IoFault Unit) : (told earlier console result).filterMap f = [] := by
  cases result <;> simp [told, List.filterMap_map, hlabelled, hrefused]

/-- The run call `inv` is answered in a turn, and the worker ends with that. -/
def Ends (c : Component) (inv : Invocation) (turn : Turn σ) : Prop :=
  ∃ reply, turn.stage = .done ∧ Event.calls turn.trace = [] ∧
    Event.answers turn.trace = [(inv, reply)] ∧ turn.farewell? = some ⟨c.name, verdict c reply⟩

theorem ends_of_told (c : Component) (inv : Invocation) (reply : Except Fault String)
    (earlier console : Console) (result : Except IoFault Unit) {last : List Event}
    (hcalls : Event.calls last = []) (hanswers : Event.answers last = [(inv, reply)])
    (host : Host σ) :
    Ends c inv
      ⟨.done, told earlier console result ++ last, host, some ⟨c.name, verdict c reply⟩⟩ := by
  have htold : Event.calls (told earlier console result) = [] :=
    filterMap_told (fun _ => rfl) (fun _ => rfl) earlier console result
  have htold' : Event.answers (told earlier console result) = [] :=
    filterMap_told (fun _ => rfl) (fun _ => rfl) earlier console result
  refine ⟨reply, rfl, ?_, ?_, rfl⟩
  · rw [Event.calls_append, htold, hcalls, List.append_nil]
  · rw [Event.answers_append, htold', hanswers, List.nil_append]

/-- A chunk that is passed on leaves the run call running, or the console's refusal ends it. -/
theorem passOn_cases (r : Runner σ) (c : Component) (inv : Invocation) (l : Labeller)
    (chunk : Chunk) (host : Host σ) :
    Ends c inv (passOn r c inv l chunk host) ∨
      ∃ l' trace console, Event.calls trace = [] ∧ Event.answers trace = [] ∧
        passOn r c inv l chunk host = ⟨.running inv l', trace, { host with console }, none⟩ := by
  unfold passOn
  dsimp only
  split
  · rename_i fault _ _
    exact .inl (ends_of_told c inv (.error (.io fault)) _ _ _ rfl rfl _)
  · exact .inr ⟨_, _, _, filterMap_told (fun _ => rfl) (fun _ => rfl) _ _ _,
      filterMap_told (fun _ => rfl) (fun _ => rfl) _ _ _, rfl⟩

theorem finish_ends (r : Runner σ) (c : Component) (inv : Invocation) (l : Labeller)
    (result : Except Fault String) (host : Host σ) : Ends c inv (finish r c inv l result host) := by
  unfold finish
  dsimp only
  split
  · rename_i fault _ _
    exact ends_of_told c inv (.error (.io fault)) _ _ _ rfl rfl _
  · exact ends_of_told c inv result _ _ _ rfl rfl _

/-- What the runner owes a worker: as long as the command that the worker has started is running, it
will be answered, and what the worker calls after that as well. -/
def Owed (p : Project) (c : Component) (stage : Stage) (running : Prop)
    (entries : List RunPhase.Entry) : Prop :=
  let calls := Event.calls (RunPhase.deeds entries)
  let answers := Event.answers (RunPhase.deeds entries)
  match stage with
  | .waiting => calls = answers.map (·.1) ∧
    ∃ result, Ran p c answers result ∧ RunPhase.farewells entries = [⟨c.name, result⟩]
  | .asking => running → p.envInvocation c :: calls = answers.map (·.1) ∧
    ∃ result, Ran p c answers result ∧ RunPhase.farewells entries = [⟨c.name, result⟩]
  | .running inv _ => running → calls = [] ∧
    ∃ reply, answers = [(inv, reply)] ∧ RunPhase.farewells entries = [⟨c.name, verdict c reply⟩]
  | .done => calls = [] ∧ answers = [] ∧ RunPhase.farewells entries = []

variable {r : Runner σ} {p : Project} {c : Component} {running : σ → Nat → Prop}

/-- When nothing is heard any more, nothing is owed. -/
theorem owed_nil {stage : Stage} {running : Prop} (h : stage ≠ .waiting) (hrunning : ¬running) :
    Owed p c stage running [] := by
  cases stage with
  | waiting => exact absurd rfl h
  | asking => exact fun hr => absurd hr hrunning
  | running inv l => exact fun hr => absurd hr hrunning
  | done => exact ⟨rfl, rfl, rfl⟩

/-- A worker that begins is owed the answer to its environment call. -/
theorem owed_waiting (hr : r.Responds running) {number : Nat} {host : Host σ}
    {entries : List RunPhase.Entry}
    (h : Owed p c .asking (running (askEnv r p number c host).host.world number) entries) :
    Owed p c .waiting (running host.world number)
      (⟨number, (askEnv r p number c host).trace, none⟩ :: entries) :=
  h (hr.start_self _)

/-- A turn that ends the worker pays what was owed. -/
theorem owed_of_ends {inv : Invocation} {turn : Turn σ} (hends : Ends c inv turn) {l : Labeller}
    {running running' : Prop} {number : Nat} {entries : List RunPhase.Entry}
    (h : Owed p c turn.stage running' entries) :
    Owed p c (.running inv l) running (⟨number, turn.trace, turn.farewell?⟩ :: entries) := by
  obtain ⟨reply, hstage, hcalls, hanswers, hfarewell⟩ := hends
  rw [hstage] at h
  obtain ⟨hcalls', hanswers', hfarewells'⟩ := h
  intro _
  refine ⟨?_, reply, ?_, ?_⟩
  · rw [RunPhase.deeds_cons, Event.calls_append, hcalls, hcalls', List.append_nil]
  · rw [RunPhase.deeds_cons, Event.answers_append, hanswers, hanswers', List.append_nil]
  · rw [RunPhase.farewells_cons, hfarewell, hfarewells']
    rfl

/-- A worker that is heard of is owed what it has not yet been told. -/
theorem owed_hear (hr : r.Responds running) (hwidth : p.options.labelWidth ≤ maxLabelWidth)
    {host : Host σ} {heard : Heard σ} (hnext : r.next? host.world = some heard) {stage : Stage}
    {entries : List RunPhase.Entry} {turn : Turn σ}
    (hturn : hear r p heard.number ⟨c, stage⟩ heard.news { host with world := heard.world } = turn)
    (h : Owed p c turn.stage (running turn.host.world heard.number) entries) :
    Owed p c stage (running host.world heard.number)
      (⟨heard.number, turn.trace, turn.farewell?⟩ :: entries) := by
  cases stage with
  | waiting =>
      -- A worker that has no command running takes no notice.
      obtain rfl := hturn
      exact h
  | done =>
      obtain rfl := hturn
      exact h
  | asking =>
      cases hnews : heard.news with
      | chunk chunk =>
          rw [hnews] at hturn
          obtain rfl := hturn
          exact fun hrunning => h (hr.next_chunk hnext hnews hrunning)
      | ended answer =>
          rw [hnews] at hturn
          intro _
          cases answer with
          | error fault =>
              obtain rfl := hturn
              obtain ⟨hcalls, hanswers, hfarewells⟩ := h
              simp only [hear, startRun, RunPhase.deeds_cons, RunPhase.farewells_cons,
                Event.calls_append, Event.answers_append, hcalls, hanswers, hfarewells]
              exact ⟨rfl, _, .noEnv fault, rfl⟩
          | ok printed =>
              obtain rfl := (startRun_ok hwidth r heard.number c printed _).symm.trans hturn
              obtain ⟨hcalls, reply, hanswers, hfarewells⟩ := h (hr.start_self _)
              simp only [RunPhase.deeds_cons, RunPhase.farewells_cons, Event.calls_append,
                Event.answers_append, hcalls, hanswers, hfarewells]
              exact ⟨rfl, _, .ran printed reply, rfl⟩
  | running inv l =>
      cases hnews : heard.news with
      | chunk chunk =>
          rw [hnews] at hturn
          rcases passOn_cases r c inv l chunk { host with world := heard.world } with
            hends | ⟨l', trace, console, hcalls, hanswers, hpassed⟩
          · -- The console refused: the call is answered all the same, by that fault.
            obtain rfl := hturn
            exact owed_of_ends hends h
          · obtain rfl := hpassed.symm.trans hturn
            intro hrunning
            obtain ⟨hcalls', reply, hanswers', hfarewells⟩ :=
              h (hr.next_chunk hnext hnews hrunning)
            refine ⟨?_, reply, ?_, hfarewells⟩
            · rw [RunPhase.deeds_cons, Event.calls_append, hcalls, hcalls', List.append_nil]
            · rw [RunPhase.deeds_cons, Event.answers_append, hanswers, hanswers', List.nil_append]
      | ended result =>
          rw [hnews] at hturn
          obtain rfl := hturn
          exact owed_of_ends (finish_ends r c inv l result _) h

/-- **The share of a worker** with a runner that answers is an environment call, and a run call if
that succeeds. -/
theorem owed_share (hr : r.Responds running) (hwidth : p.options.labelWidth ≤ maxLabelWidth)
    {s : RunPhase.State σ} {number : Nat} {stage : Stage}
    (hw : s.workers[number]? = some ⟨c, stage⟩) :
    Owed p c stage (running s.host.world number)
      (RunPhase.share number (RunPhase.record r p s).1) := by
  have hinv : ∀ {s turn? s'}, RunPhase.Steps r p s turn? s' → True → True := fun _ h => h
  refine RunPhase.share_induction hr.toSeparates hinv ?_ ?_ ?_ trivial hw
  · intro world stage hnext hstage
    exact owed_nil hstage (hr.next_none hnext)
  · intro s entries _ turn h
    exact owed_waiting hr h
  · rintro s stage heard entries _ hnext rfl turn h
    exact owed_hear hr hwidth hnext rfl h

end Worker

/-- Every call succeeded. -/
def Succeeded (answers : List Answered) : Prop :=
  ∀ a ∈ answers, ∃ output, a.2 = .ok output

theorem succeeded_append {answers answers' : List Answered} :
    Succeeded (answers ++ answers') ↔ Succeeded answers ∧ Succeeded answers' :=
  List.forall_mem_append

/-- A worker succeeds exactly when its calls do. -/
theorem Ran.result_eq_ok_iff {p : Project} {c : Component} {answers : List Answered}
    {result : Except Failure Unit} (h : Ran p c answers result) :
    result = .ok () ↔ Succeeded answers := by
  cases h with
  | noEnv fault => simp [Succeeded]
  | ran printed reply => cases reply <;> simp [Succeeded, Worker.verdict]

/-- What a run phase calls and is answered: every component's worker has its share of it. -/
structure RanAll (p : Project) (calls : List Invocation) (answers : List Answered)
    (result : Except Failure Unit) : Prop where
  shares : ∃ share : Nat → List Answered,
    (∀ {i c}, p.components[i]? = some c → ∃ result, Ran p c (share i) result) ∧
      answers.Perm ((List.range p.components.length).flatMap share)
  calls_perm : calls.Perm (answers.map (·.1))
  result_eq_ok_iff : result = .ok () ↔ Succeeded answers

/-- A worker whose calls succeed has made both. -/
theorem Ran.calls_of_succeeded {p : Project} {c : Component} {answers : List Answered}
    {result : Except Failure Unit} (h : Ran p c answers result) (hsucceeded : Succeeded answers) :
    ∃ printed, answers.map (·.1) = [p.envInvocation c, p.runInvocation c printed] := by
  cases h with
  | noEnv fault => simp [Succeeded] at hsucceeded
  | ran printed reply => exact ⟨printed, rfl⟩

/-- If the run phase succeeds, every component was asked for its environment and run, once. -/
theorem RanAll.calls_of_ok {p : Project} {calls : List Invocation} {answers : List Answered}
    {result : Except Failure Unit} (h : RanAll p calls answers result) (hresult : result = .ok ()) :
    ∃ printed : Nat → String, calls.Perm (p.components.zipIdx.flatMap fun (c, i) =>
      [p.envInvocation c, p.runInvocation c (printed i)]) := by
  obtain ⟨share, hshare, hanswers⟩ := h.shares
  have hsucceeded := h.result_eq_ok_iff.mp hresult
  -- What an environment is goes by the number: a component that is included twice has two.
  have hcalls : ∀ i, ∃ printed, ∀ c, p.components[i]? = some c →
      (share i).map (·.1) = [p.envInvocation c, p.runInvocation c printed] := by
    intro i
    cases hc : p.components[i]? with
    | none => exact ⟨"", fun c hc' => by cases hc'⟩
    | some c =>
        obtain ⟨result, hran⟩ := hshare hc
        have hlt := (List.getElem?_eq_some_iff.mp hc).1
        obtain ⟨printed, hprinted⟩ := hran.calls_of_succeeded fun a ha =>
          hsucceeded a (hanswers.symm.subset (List.mem_flatMap.mpr ⟨i, List.mem_range.mpr hlt, ha⟩))
        refine ⟨printed, fun c' hc' => ?_⟩
        cases hc'
        exact hprinted
  choose printed hprinted using hcalls
  refine ⟨printed, h.calls_perm.trans ((hanswers.map (·.1)).trans (.of_eq ?_))⟩
  have hrange : List.range p.components.length = p.components.zipIdx.map (·.2) := by
    rw [List.zipIdx_map_snd, List.range_eq_range']
  rw [hrange, List.flatMap_map, List.map_flatMap]
  refine List.flatMap_congr fun (c, i) hmem => ?_
  exact hprinted i c (List.mk_mem_zipIdx_iff_getElem?.mp hmem)

namespace RunPhase

variable {r : Runner σ} {p : Project} {running : σ → Nat → Prop}

/-- The share of each worker, from beginning to end. -/
theorem ran_share (hr : r.Responds running) (hwidth : p.options.labelWidth ≤ maxLabelWidth)
    (host : Host σ) {i : Nat} {c : Component} (h : p.components[i]? = some c) :
    let own := share i (turns r p host)
    Event.calls (deeds own) = (Event.answers (deeds own)).map (·.1) ∧
      ∃ result, Ran p c (Event.answers (deeds own)) result ∧ farewells own = [⟨c.name, result⟩] :=
  Worker.owed_share hr hwidth (getElem?_start host h)

theorem runAll_ranAll (hr : r.Responds running) (hwidth : p.options.labelWidth ≤ maxLabelWidth)
    (host : Host σ) :
    RanAll p (Event.calls (runAll r p host).trace) (Event.answers (runAll r p host).trace)
      (runAll r p host).result := by
  have hnumbers : ∀ e ∈ turns r p host, e.number < p.components.length :=
    number_lt_length_components
  have hcomponent {i : Nat} (hi : i < p.components.length) := ran_share hr hwidth host
    (List.getElem?_eq_getElem hi)
  have hanswers : Event.answers (runAll r p host).trace = Event.answers (deeds (turns r p host)) :=
    answers_tell false _
  have hcalls : Event.calls (runAll r p host).trace = Event.calls (deeds (turns r p host)) :=
    calls_tell false _
  have hshares : (Event.answers (deeds (turns r p host))).Perm
      ((List.range p.components.length).flatMap
        fun i => Event.answers (deeds (share i (turns r p host)))) :=
    (perm_filterMap_deeds Event.answer? hnumbers).symm
  rw [hanswers, hcalls]
  refine ⟨⟨_, fun h => ?_, hshares⟩, ?_, ?_⟩
  · obtain ⟨-, result, hran, -⟩ := ran_share hr hwidth host h
    exact ⟨result, hran⟩
  · -- Every share is answered call by call, so the calls are the calls of the answers.
    have hperm := perm_filterMap_deeds Event.call? hnumbers
    refine hperm.symm.trans (.trans (.of_eq ?_) (hshares.symm.map (·.1)))
    rw [List.map_flatMap]
    exact List.flatMap_congr fun i hi => (hcomponent (List.mem_range.mp hi)).1
  · -- An answer and the end that it leads to stand in the share of one worker.
    refine verdict_eq_ok_iff.trans ⟨fun hall a ha => ?_, fun hall f hf => ?_⟩
    · obtain ⟨i, hi, ha⟩ := List.mem_flatMap.mp (hshares.subset ha)
      have hlt := List.mem_range.mp hi
      obtain ⟨-, result, hran, hfarewells⟩ := hcomponent hlt
      have hresult := hall ⟨_, result⟩
        ((mem_farewells_iff hnumbers).mpr ⟨i, hlt, hfarewells ▸ List.mem_singleton_self _⟩)
      exact hran.result_eq_ok_iff.mp hresult a ha
    · obtain ⟨i, hlt, hf⟩ := (mem_farewells_iff hnumbers).mp hf
      obtain ⟨-, result, hran, hfarewells⟩ := hcomponent hlt
      obtain rfl := List.mem_singleton.mp (hfarewells ▸ hf)
      refine hran.result_eq_ok_iff.mpr fun a ha => hall a (hshares.symm.subset ?_)
      exact List.mem_flatMap.mpr ⟨i, List.mem_range.mpr hlt, ha⟩

end RunPhase

/-! ### Commands -/

/-- Where its text has been asked for, the output of every check contains it. -/
def Matched (checks : List Check) (answers : List Answered) : Prop :=
  ∀ (k : Nat) (c : Check) (inv : Invocation) (output : String), checks[k]? = some c →
    answers[k]? = some (inv, .ok output) → Text.contains output c.equals

theorem Check.verdict_eq_ok_iff {c : Check} {reply : Except Fault String} :
    c.verdict reply = .ok () ↔ ∃ output, reply = .ok output ∧ Text.contains output c.equals := by
  cases reply with
  | error fault => simp [Check.verdict]
  | ok output =>
      unfold Check.verdict
      split <;> simp_all

theorem Project.verdict_errand_eq_ok_iff {p : Project} {phase : Phase} {c : Component}
    {reply : Except Fault String} :
    (p.errand phase c).verdict reply = .ok () ↔ ∃ output, reply = .ok output := by
  cases reply <;> simp [Project.errand]

namespace UpToFailure

variable {checks : List Check} {p : Project} {phase : Phase} {components : List Component}
  {answers rest : List Answered} {result : Except Failure Unit}

/-- An answer that is accepted only from a command that succeeded tells that it did. -/
theorem succeeded_of_ok {errands : List Errand} (h : UpToFailure errands answers result)
    (hresult : result = .ok ())
    (hverdict : ∀ e ∈ errands, ∀ reply, e.verdict reply = .ok () → ∃ output, reply = .ok output) :
    Succeeded answers := by
  intro a ha
  obtain ⟨k, hk⟩ := List.mem_iff_getElem?.mp ha
  have hlength : answers.length = errands.length := by
    simpa using congrArg List.length (h.calls_of_ok hresult)
  have hlt : k < errands.length := hlength ▸ (List.getElem?_eq_some_iff.mp hk).1
  have he := List.getElem?_eq_getElem hlt
  exact hverdict _ (List.getElem_mem hlt) _ (h.verdict_of_ok hresult he hk)

/-- If all checks pass, all of them were run and have matched. -/
theorem checks_of_ok (h : UpToFailure (checks.map Check.errand) answers result)
    (hresult : result = .ok ()) :
    answers.map (·.1) = checks.map Check.invocation ∧ Succeeded answers ∧
      ∀ rest, Matched checks (answers ++ rest) := by
  have hcalls := h.calls_of_ok hresult
  rw [List.map_map] at hcalls
  refine ⟨hcalls, h.succeeded_of_ok hresult fun e he reply hreply => ?_, ?_⟩
  · obtain ⟨c, -, rfl⟩ := List.mem_map.mp he
    obtain ⟨output, rfl, -⟩ := Check.verdict_eq_ok_iff.mp hreply
    exact ⟨output, rfl⟩
  · intro rest k c inv output hc ha
    have hlt : k < answers.length := by
      have hlength : answers.length = checks.length := by
        simpa using congrArg List.length hcalls
      exact hlength ▸ (List.getElem?_eq_some_iff.mp hc).1
    rw [List.getElem?_append_left hlt] at ha
    have he : (checks.map Check.errand)[k]? = some c.errand := by simp [hc]
    have hverdict : c.verdict (.ok output) = .ok () := h.verdict_of_ok hresult he ha
    obtain ⟨output', houtput, hcontains⟩ := Check.verdict_eq_ok_iff.mp hverdict
    cases houtput
    exact hcontains

/-- Checks pass if their commands succeed and their texts are found. -/
theorem ok_of_matched (h : UpToFailure (checks.map Check.errand) answers result)
    (hsucceeded : Succeeded answers) (hmatched : Matched checks (answers ++ rest)) :
    result = .ok () := by
  refine h.ok_of_verdict fun {k e a} he ha => ?_
  rw [List.getElem?_map] at he
  obtain ⟨c, hc, rfl⟩ := Option.map_eq_some_iff.mp he
  obtain ⟨output, houtput⟩ := hsucceeded a (List.mem_of_getElem? ha)
  have hfound : (answers ++ rest)[k]? = some (a.1, .ok output) := by
    rw [List.getElem?_append_left (List.getElem?_eq_some_iff.mp ha).1, ha, ← houtput]
  exact Check.verdict_eq_ok_iff.mpr ⟨output, houtput, hmatched k c a.1 output hc hfound⟩

/-- If all components pass, all of them were called. -/
theorem components_of_ok (h : UpToFailure (components.map (p.errand phase)) answers result)
    (hresult : result = .ok ()) :
    answers.map (·.1) = components.map (p.phaseInvocation phase) ∧ Succeeded answers := by
  have hcalls := h.calls_of_ok hresult
  rw [List.map_map] at hcalls
  refine ⟨hcalls, h.succeeded_of_ok hresult fun e he reply hreply => ?_⟩
  obtain ⟨c, -, rfl⟩ := List.mem_map.mp he
  exact Project.verdict_errand_eq_ok_iff.mp hreply

/-- Components pass if their commands succeed. -/
theorem ok_of_succeeded (h : UpToFailure (components.map (p.errand phase)) answers result)
    (hsucceeded : Succeeded answers) : result = .ok () := by
  refine h.ok_of_verdict fun {k e a} he ha => ?_
  rw [List.getElem?_map] at he
  obtain ⟨c, -, rfl⟩ := Option.map_eq_some_iff.mp he
  exact Project.verdict_errand_eq_ok_iff.mpr (hsucceeded a (List.mem_of_getElem? ha))

end UpToFailure

/-- The phase of a command that takes the components one by one, and its name in messages. -/
def phaseOf : Option Command → Phase × String
  | none | some .build => (.build, "BuildAll")
  | some .test => (.test, "TestAll")
  | some .clean => (.clean, "CleanAll")

/-- What becomes of a command, by what becomes of its parts. -/
inductive Dispatched (r : Runner σ) (p : Project) (command : Option Command) (host : Host σ) :
    Outcome σ → Prop
  /-- A check fails, and nothing else is done. -/
  | stopped {checked : Outcome σ} {failure : Failure}
    (hchecks : checkAll r p.descriptor.checks host = checked)
    (hfails : checked.result = .error failure) :
    Dispatched r p command host
      ⟨.error (failure.within "failed to TestChecks"), checked.trace, checked.host⟩
  /-- The checks pass, and the phase fails that takes the components one by one. -/
  | failed {checked made : Outcome σ} {failure : Failure}
    (hchecks : checkAll r p.descriptor.checks host = checked) (hchecked : checked.result = .ok ())
    (hphase : runPhaseInOrder r p (phaseOf command).1 checked.host = made)
    (hfails : made.result = .error failure) :
    Dispatched r p command host
      ⟨.error (failure.within ("failed to " ++ (phaseOf command).2)), checked.trace ++ made.trace,
        made.host⟩
  /-- The checks and the phase pass, and nothing else was asked for. -/
  | done {checked made : Outcome σ} (hcommand : command ≠ none)
    (hchecks : checkAll r p.descriptor.checks host = checked) (hchecked : checked.result = .ok ())
    (hphase : runPhaseInOrder r p (phaseOf command).1 checked.host = made)
    (hmade : made.result = .ok ()) :
    Dispatched r p command host ⟨.ok (), checked.trace ++ made.trace, made.host⟩
  /-- The checks pass and everything is built, so everything is run. -/
  | ran {checked made ran : Outcome σ} (hcommand : command = none)
    (hchecks : checkAll r p.descriptor.checks host = checked) (hchecked : checked.result = .ok ())
    (hphase : runPhaseInOrder r p .build checked.host = made) (hmade : made.result = .ok ())
    (hrun : runAll r p made.host = ran) :
    Dispatched r p command host
      ⟨ran.result.mapError (·.within "failed to RunAll"),
        checked.trace ++ (made.trace ++ ran.trace), ran.host⟩

/-- Behind checks that pass, a phase decides if nothing else was asked for. -/
theorem dispatched_of_phase {r : Runner σ} {p : Project} {command : Option Command} {host : Host σ}
    {checked : Outcome σ} (hchecks : checkAll r p.descriptor.checks host = checked)
    (hchecked : checked.result = .ok ()) (hcommand : command ≠ none) {phase : Phase} {name : String}
    (hnamed : phaseOf command = (phase, name)) :
    Dispatched r p command host ((phaseNamed r p phase name checked.host).after checked.trace) := by
  obtain rfl : (phaseOf command).1 = phase := congrArg Prod.fst hnamed
  obtain rfl : (phaseOf command).2 = name := congrArg Prod.snd hnamed
  unfold phaseNamed
  generalize hphase : runPhaseInOrder r p (phaseOf command).1 checked.host = made
  obtain ⟨result, trace, host'⟩ := made
  cases result with
  | error failure =>
      have hfailed := Dispatched.failed hchecks hchecked hphase rfl
      exact hfailed
  | ok =>
      have hdone := Dispatched.done hcommand hchecks hchecked hphase rfl
      exact hdone

theorem dispatch_dispatched (r : Runner σ) (p : Project) (command : Option Command)
    (host : Host σ) : Dispatched r p command host (dispatch r p command host) := by
  unfold dispatch
  generalize hchecks : checkAll r p.descriptor.checks host = checked
  cases hchecked : checked.result with
  | error failure =>
      rw [Outcome.within_andThen_of_error hchecked]
      exact .stopped hchecks hchecked
  | ok =>
      rw [Outcome.within_andThen_of_ok hchecked]
      rcases command with _ | _ | _ | _
      · -- Without a command the run phase comes behind the build.
        unfold phaseNamed
        dsimp only
        generalize hphase : runPhaseInOrder r p .build checked.host = made
        cases hmade : made.result with
        | error failure =>
            rw [Outcome.within_andThen_of_error hmade]
            have hfailed : Dispatched r p none host _ := .failed hchecks hchecked hphase hmade
            exact hfailed
        | ok =>
            rw [Outcome.within_andThen_of_ok hmade]
            exact .ran rfl hchecks hchecked hphase hmade rfl
      · exact dispatched_of_phase hchecks hchecked (Option.some_ne_none _) rfl
      · exact dispatched_of_phase hchecks hchecked (Option.some_ne_none _) rfl
      · exact dispatched_of_phase hchecks hchecked (Option.some_ne_none _) rfl

/-- **How far a command goes.** What it calls, in order, what is answered, and its result. -/
inductive Gated (p : Project) (command : Option Command) :
    List Invocation → List Answered → Except Failure Unit → Prop
  /-- A check fails, and nothing else is called. -/
  | checkFails {checked : List Answered} {failure : Failure}
    (hchecks : UpToFailure (p.descriptor.checks.map Check.errand) checked (.error failure)) :
    Gated p command (checked.map (·.1)) checked (.error (failure.within "failed to TestChecks"))
  /-- All checks pass, but a component fails, and nothing else is called. -/
  | phaseFails {checked made : List Answered} {failure : Failure}
    (hchecks : UpToFailure (p.descriptor.checks.map Check.errand) checked (.ok ()))
    (hphase : UpToFailure (p.components.map (p.errand (phaseOf command).1)) made (.error failure)) :
    Gated p command ((checked ++ made).map (·.1)) (checked ++ made)
      (.error (failure.within ("failed to " ++ (phaseOf command).2)))
  /-- All checks and all components pass, and nothing else was asked for. -/
  | phaseDone {checked made : List Answered} (hcommand : command ≠ none)
    (hchecks : UpToFailure (p.descriptor.checks.map Check.errand) checked (.ok ()))
    (hphase : UpToFailure (p.components.map (p.errand (phaseOf command).1)) made (.ok ())) :
    Gated p command ((checked ++ made).map (·.1)) (checked ++ made) (.ok ())
  /-- All checks pass and everything is built, so everything is run. -/
  | runs {checked made ran : List Answered} {runCalls : List Invocation}
    {result : Except Failure Unit} (hcommand : command = none)
    (hchecks : UpToFailure (p.descriptor.checks.map Check.errand) checked (.ok ()))
    (hphase : UpToFailure (p.components.map (p.errand (phaseOf command).1)) made (.ok ()))
    (hran : RanAll p runCalls ran result) :
    Gated p command ((checked ++ made).map (·.1) ++ runCalls) (checked ++ made ++ ran)
      (result.mapError (·.within "failed to RunAll"))

namespace Gated

variable {p : Project} {command : Option Command} {calls : List Invocation}
  {answers : List Answered} {result : Except Failure Unit}

/-- Every call is answered. -/
theorem calls_perm (h : Gated p command calls answers result) : calls.Perm (answers.map (·.1)) := by
  cases h with
  | checkFails hchecks => exact .refl _
  | phaseFails hchecks hphase => exact .refl _
  | phaseDone hcommand hchecks hphase => exact .refl _
  | @runs checked made ran runCalls result hcommand hchecks hphase hran =>
      have hsplit : (checked ++ made ++ ran).map (·.1) =
          (checked ++ made).map (·.1) ++ ran.map (·.1) := List.map_append
      rw [hsplit]
      exact hran.calls_perm.append_left _

/-- A command succeeds exactly when all that it has called did, and every check has matched. -/
theorem result_eq_ok_iff (h : Gated p command calls answers result) :
    result = .ok () ↔ Succeeded answers ∧ Matched p.descriptor.checks answers := by
  cases h with
  | checkFails hchecks =>
      refine iff_of_false (by simp) fun ⟨hsucceeded, hmatched⟩ => ?_
      rw [← List.append_nil answers] at hmatched
      cases hchecks.ok_of_matched hsucceeded hmatched
  | phaseFails hchecks hphase =>
      refine iff_of_false (by simp) fun ⟨hsucceeded, _⟩ => ?_
      cases hphase.ok_of_succeeded (succeeded_append.mp hsucceeded).2
  | @phaseDone checked made hcommand hchecks hphase =>
      obtain ⟨-, hchecked, hmatched⟩ := hchecks.checks_of_ok rfl
      obtain ⟨-, hmade⟩ := hphase.components_of_ok rfl
      exact iff_of_true rfl ⟨succeeded_append.mpr ⟨hchecked, hmade⟩, hmatched made⟩
  | @runs checked made ran runCalls result hcommand hchecks hphase hran =>
      obtain ⟨-, hchecked, hmatched⟩ := hchecks.checks_of_ok rfl
      obtain ⟨-, hmade⟩ := hphase.components_of_ok rfl
      have hresult : result.mapError (·.within "failed to RunAll") = .ok () ↔ result = .ok () := by
        cases result with
        | ok => exact iff_of_true rfl rfl
        | error failure => exact iff_of_false nofun nofun
      rw [hresult, hran.result_eq_ok_iff, succeeded_append, succeeded_append, List.append_assoc]
      exact ⟨fun hrun => ⟨⟨⟨hchecked, hmade⟩, hrun⟩, hmatched (made ++ ran)⟩, fun h => h.1.2⟩

/-- If a command succeeds, it has called every check, and every component once for each target. -/
theorem calls_of_ok (h : Gated p command calls answers result) (hresult : result = .ok ()) :
    ∃ runCalls, calls = p.descriptor.checks.map Check.invocation ++
        p.components.map (p.phaseInvocation (phaseOf command).1) ++ runCalls ∧
      (command ≠ none → runCalls = []) ∧
      (command = none → ∃ printed : Nat → String,
        runCalls.Perm (p.components.zipIdx.flatMap fun (c, i) =>
          [p.envInvocation c, p.runInvocation c (printed i)])) := by
  cases h with
  | checkFails hchecks => cases hresult
  | phaseFails hchecks hphase => cases hresult
  | phaseDone hcommand hchecks hphase =>
      obtain ⟨hchecked, -, -⟩ := hchecks.checks_of_ok rfl
      obtain ⟨hmade, -⟩ := hphase.components_of_ok rfl
      refine ⟨[], ?_, fun _ => rfl, fun hnone => absurd hnone hcommand⟩
      rw [List.map_append, hchecked, hmade, List.append_nil]
  | @runs checked made ran runCalls result hcommand hchecks hphase hran =>
      obtain ⟨hchecked, -, -⟩ := hchecks.checks_of_ok rfl
      obtain ⟨hmade, -⟩ := hphase.components_of_ok rfl
      refine ⟨runCalls, ?_, fun hsome => absurd hcommand hsome, fun _ => hran.calls_of_ok ?_⟩
      · rw [List.map_append, hchecked, hmade]
      · cases result with
        | ok => rfl
        | error failure => cases hresult

end Gated

namespace Outcome

variable {o : Outcome σ} {p : Project} {command : Option Command} {earlier : List Event}

/-- An outcome tells how far a command has gone. -/
def IsGated (o : Outcome σ) (p : Project) (command : Option Command) : Prop :=
  Gated p command (Event.calls o.trace) (Event.answers o.trace) o.result

end Outcome

theorem dispatch_isGated {r : Runner σ} {running : σ → Nat → Prop} (hr : r.Responds running)
    (p : Project) (hwidth : p.options.labelWidth ≤ maxLabelWidth) (command : Option Command)
    (host : Host σ) : (dispatch r p command host).IsGated p command := by
  have hdispatched := dispatch_dispatched r p command host
  unfold Outcome.IsGated
  generalize dispatch r p command host = o at hdispatched ⊢
  cases hdispatched with
  | stopped hchecks hfails =>
      obtain ⟨hdone, hcalls⟩ := hchecks ▸ checkAll_does r p.descriptor.checks host
      rw [hcalls]
      exact .checkFails (hfails ▸ hdone)
  | failed hchecks hchecked hphase hfails =>
      obtain ⟨hpassed, hcalls⟩ := hchecks ▸ checkAll_does r p.descriptor.checks host
      obtain ⟨hmade, hmadeCalls⟩ := hphase ▸ runPhaseInOrder_does r p _ _
      rw [Event.calls_append, Event.answers_append, hcalls, hmadeCalls, ← List.map_append]
      exact .phaseFails (hchecked ▸ hpassed) (hfails ▸ hmade)
  | done hcommand hchecks hchecked hphase hsucceeds =>
      obtain ⟨hpassed, hcalls⟩ := hchecks ▸ checkAll_does r p.descriptor.checks host
      obtain ⟨hmade, hmadeCalls⟩ := hphase ▸ runPhaseInOrder_does r p _ _
      rw [Event.calls_append, Event.answers_append, hcalls, hmadeCalls, ← List.map_append]
      exact .phaseDone hcommand (hchecked ▸ hpassed) (hsucceeds ▸ hmade)
  | ran hcommand hchecks hchecked hphase hsucceeds hrun =>
      obtain ⟨hpassed, hcalls⟩ := hchecks ▸ checkAll_does r p.descriptor.checks host
      obtain ⟨hmade, hmadeCalls⟩ := hphase ▸ runPhaseInOrder_does r p _ _
      have hran := hrun ▸ RunPhase.runAll_ranAll hr hwidth _
      rw [← List.append_assoc, Event.calls_append, Event.answers_append, Event.calls_append,
        Event.answers_append, hcalls, hmadeCalls, ← List.map_append]
      subst hcommand
      exact .runs rfl (hchecked ▸ hpassed) (hsucceeds ▸ hmade) hran

/-- **Gating of commands.** With a runner that answers what it has started, whatever it answers:

* a command goes as far as its checks, its components and its calls let it (`Gated`), and every call
  is answered;
* it succeeds exactly when every call has succeeded and every check has matched;
* and then it has run every check, and called every component once for each target that it needs. -/
theorem dispatch_gated {r : Runner σ} {running : σ → Nat → Prop} (hr : r.Responds running)
    (p : Project) (hwidth : p.options.labelWidth ≤ maxLabelWidth) (command : Option Command)
    (host : Host σ) :
    let o := dispatch r p command host
    let calls := Event.calls o.trace
    let answers := Event.answers o.trace
    Gated p command calls answers o.result ∧ calls.Perm (answers.map (·.1)) ∧
      (o.result = .ok () ↔ Succeeded answers ∧ Matched p.descriptor.checks answers) ∧
      (o.result = .ok () → ∃ runCalls,
        calls = p.descriptor.checks.map Check.invocation ++
          p.components.map (p.phaseInvocation (phaseOf command).1) ++ runCalls ∧
        (command ≠ none → runCalls = []) ∧
        (command = none → ∃ printed : Nat → String,
          runCalls.Perm (p.components.zipIdx.flatMap fun (c, i) =>
            [p.envInvocation c, p.runInvocation c (printed i)]))) := by
  intro o calls answers
  have hgated : Gated p command calls answers o.result := dispatch_isGated hr p hwidth command host
  exact ⟨hgated, hgated.calls_perm, hgated.result_eq_ok_iff, hgated.calls_of_ok⟩

/-- A project with a check and two components, of which the second cannot be built. -/
theorem dispatch_gated_by_failing_build :
    let p : Project :=
      { descriptor :=
          ⟨[⟨"tool --version", "4."⟩], [⟨⟨"a/a.mk"⟩, none⟩, ⟨⟨"b/b.mk"⟩, none⟩], [],
            ⟨"/project/build.mk"⟩⟩
        options := ⟨"make", ⟨"/project/bin"⟩, "DEST", 12⟩ }
    let scripts : List Script :=
      [{ needle := "--version", output := "tool 4.3" },
        { needle := "b.mk build", reply := .fails (some 2) }]
    let o := dispatch (scriptedRunner scripts) p none ⟨{}, .sound⟩
    (scriptedRunner scripts).Responds Agenda.Running ∧ p.options.labelWidth ≤ maxLabelWidth ∧
      Gated p none (Event.calls o.trace) (Event.answers o.trace) o.result := by
  intro p scripts o
  have hwidth : p.options.labelWidth ≤ maxLabelWidth := by decide
  exact ⟨scriptedRunner_responds scripts, hwidth,
    (dispatch_gated (scriptedRunner_responds scripts) p hwidth none ⟨{}, .sound⟩).1⟩

end Ensemble
