import Ensemble.Proofs.RunCalls
import Ensemble.Proofs.Timing
import Ensemble.Settings.Basic

/-!
# Ensemble.Proofs.Breakdown

**When a worker breaks down.** A worker of the run phase makes its labeller after its environment
call and before its run call, and no labeller can be made for a label that is too wide. The settings
are accepted with any width but zero, so a width beyond `maxLabelWidth` comes as far as that: every
worker whose environment call succeeds then breaks down before it has called anything else. With
every other width none does. The main result, `scriptedRunner_breakdowns`, says both, for any
console, be it one that refuses all it is given.

Calls that are answered by their invocations leave a worker three ways to go (`Goes`). They are
found by induction on its own turns, from its stage and what is due to it (`Worker.Going`), as its
account is on a console that never refuses. A refusal ends a worker while its command is still
running, so one that has ended is left alone by whatever is due to it.
-/

namespace Ensemble

/-- What is made of the answer to a call whose output is passed on: the console's refusal may stand
in its place. -/
def OrRefused (answer reply : Except Fault String) : Prop :=
  reply = answer ∨ ∃ fault, reply = .error (.io fault)

/-- How the worker of a component goes whose calls are answered by `answer`: what it calls, and how
it ends. -/
inductive Goes (p : Project) (c : Component) (answer : Invocation → Except Fault String) :
    List Invocation → Farewell → Prop
  /-- Its environment call fails, and it makes no other. -/
  | noEnv {fault : Fault} (henv : answer (p.envInvocation c) = .error fault) :
    Goes p c answer [p.envInvocation c] ⟨c.name, .error (Worker.envFailure c fault)⟩
  /-- Its environment call succeeds, but there is no labeller for it. -/
  | broke {printed : String} (henv : answer (p.envInvocation c) = .ok printed)
    (hwidth : maxLabelWidth < p.options.labelWidth) :
    Goes p c answer [p.envInvocation c] ⟨"<unknown>", .error Worker.broken⟩
  /-- It makes both calls. -/
  | ran {printed : String} {reply : Except Fault String}
    (henv : answer (p.envInvocation c) = .ok printed)
    (hwidth : p.options.labelWidth ≤ maxLabelWidth)
    (hrun : OrRefused (answer (p.runInvocation c printed)) reply) :
    Goes p c answer [p.envInvocation c, p.runInvocation c printed]
      ⟨c.name, Worker.verdict c reply⟩

/-! ### The turns of a worker -/

namespace Worker

/-- How a worker still goes, told by its stage and by what is due to it. -/
def Going (p : Project) (c : Component) (answer : Invocation → Except Fault String) (stage : Stage)
    (due : List News) (entries : List RunPhase.Entry) : Prop :=
  let calls := Event.calls (RunPhase.deeds entries)
  let ends := RunPhase.farewells entries
  match stage with
  | .waiting => due = [] → ∃ f, Goes p c answer calls f ∧ ends = [f]
  | .asking => ∀ later : List Chunk,
    due = later.map .chunk ++ [.ended (answer (p.envInvocation c))] →
    ∃ f, Goes p c answer (p.envInvocation c :: calls) f ∧ ends = [f]
  | .running _ _ => ∀ (later : List Chunk) (result : Except Fault String),
    due = later.map .chunk ++ [.ended result] →
    calls = [] ∧ ∃ reply, OrRefused result reply ∧ ends = [⟨c.name, verdict c reply⟩]
  | .done => calls = [] ∧ ends = []

/-- Passing on output calls nothing. -/
theorem calls_told (earlier console : Console) (result : Except IoFault Unit) {behind : List Event}
    (h : Event.calls behind = []) : Event.calls (told earlier console result ++ behind) = [] := by
  rw [Event.calls_append, h, List.append_nil]
  exact filterMap_told (fun _ => rfl) (fun _ => rfl) earlier console result

/-- A chunk that is passed on leaves the run call running, or the console's refusal ends the
worker. -/
theorem passOn_or_refused (r : Runner σ) (c : Component) (inv : Invocation) (l : Labeller)
    (chunk : Chunk) (host : Host σ) :
    ∃ trace console, Event.calls trace = [] ∧
      ((∃ l', passOn r c inv l chunk host = ⟨.running inv l', trace, { host with console }, none⟩) ∨
        ∃ fault, passOn r c inv l chunk host =
          ⟨.done, trace, { host with console },
            some ⟨c.name, verdict c (.error (.io fault))⟩⟩) := by
  unfold passOn
  dsimp only
  split
  · rename_i fault _ _
    exact ⟨_, _, calls_told _ _ _ rfl, .inr ⟨fault, rfl⟩⟩
  · exact ⟨_, _, filterMap_told (fun _ => rfl) (fun _ => rfl) _ _ _, .inl ⟨_, rfl⟩⟩

/-- The end of the run call ends the worker, with its result or with the console's refusal. -/
theorem finish_or_refused (r : Runner σ) (c : Component) (inv : Invocation) (l : Labeller)
    (result : Except Fault String) (host : Host σ) :
    ∃ trace console reply, Event.calls trace = [] ∧ OrRefused result reply ∧
      finish r c inv l result host =
        ⟨.done, trace, { host with console }, some ⟨c.name, verdict c reply⟩⟩ := by
  unfold finish
  dsimp only
  split
  · rename_i fault _ _
    exact ⟨_, _, .error (.io fault), calls_told _ _ _ rfl, .inr ⟨fault, rfl⟩, rfl⟩
  · exact ⟨_, _, result, calls_told _ _ _ rfl, .inl rfl, rfl⟩

variable {r : Runner σ} {p : Project} {c : Component} {due : σ → Nat → List News}
  {chunks : Invocation → List Chunk} {answer : Invocation → Except Fault String}

/-- When nothing more is heard, a worker that has begun goes no further. -/
theorem going_nil {stage : Stage} (h : stage ≠ .waiting) : Going p c answer stage [] [] := by
  cases stage with
  | waiting => exact absurd rfl h
  | asking => simp [Going]
  | running inv l => simp [Going]
  | done => exact ⟨rfl, rfl⟩

/-- A worker that begins makes its environment call. -/
theorem going_waiting (hr : r.Answers due chunks answer) {number : Nat} {host : Host σ}
    {entries : List RunPhase.Entry}
    (h : Going p c answer .asking (due (askEnv r p number c host).host.world number) entries) :
    Going p c answer .waiting (due host.world number)
      (⟨number, (askEnv r p number c host).trace, none⟩ :: entries) := by
  intro hidle
  exact h (chunks (p.envInvocation c)) (hr.start_self _ hidle)

/-- The answer to the environment call decides how a worker goes on: only with a labeller does it
make its run call. -/
theorem going_startRun (hr : r.Answers due chunks answer) {number : Nat} {host : Host σ}
    (hidle : due host.world number = []) {entries : List RunPhase.Entry} {turn : Turn σ}
    (hturn : startRun r p number c (answer (p.envInvocation c)) host = turn)
    (h : Going p c answer turn.stage (due turn.host.world number) entries) :
    ∃ f, Goes p c answer (p.envInvocation c ::
        Event.calls (RunPhase.deeds (⟨number, turn.trace, turn.farewell?⟩ :: entries))) f ∧
      RunPhase.farewells (⟨number, turn.trace, turn.farewell?⟩ :: entries) = [f] := by
  cases henv : answer (p.envInvocation c) with
  | error fault =>
      rw [henv] at hturn
      obtain rfl := hturn
      obtain ⟨hcalls, hends⟩ := h
      simp only [startRun, RunPhase.deeds_cons, RunPhase.farewells_cons, Event.calls_append, hcalls,
        hends]
      exact ⟨_, .noEnv henv, rfl⟩
  | ok printed =>
      rw [henv] at hturn
      by_cases hwidth : p.options.labelWidth ≤ maxLabelWidth
      · obtain rfl := (startRun_ok hwidth r number c printed host).symm.trans hturn
        obtain ⟨hcalls, reply, hreply, hends⟩ := h _ _ (hr.start_self _ hidle)
        simp only [RunPhase.deeds_cons, RunPhase.farewells_cons, Event.calls_append, hcalls, hends]
        exact ⟨_, .ran henv hwidth hreply, rfl⟩
      · simp only [startRun, Labeller.new?, if_neg hwidth] at hturn
        obtain rfl := hturn
        obtain ⟨hcalls, hends⟩ := h
        simp only [RunPhase.deeds_cons, RunPhase.farewells_cons, Event.calls_append, hcalls, hends]
        exact ⟨_, .broke henv (Nat.lt_of_not_le hwidth), rfl⟩

/-- A turn in which a worker ends is its last. -/
theorem going_end {number : Nat} {trace : List Event} {result reply : Except Fault String}
    {due : List News} {entries : List RunPhase.Entry} (hcalls : Event.calls trace = [])
    (hreply : OrRefused result reply) (h : Going p c answer .done due entries) :
    let own := ⟨number, trace, some ⟨c.name, verdict c reply⟩⟩ :: entries
    Event.calls (RunPhase.deeds own) = [] ∧
      ∃ reply, OrRefused result reply ∧ RunPhase.farewells own = [⟨c.name, verdict c reply⟩] := by
  obtain ⟨hcalls', hends⟩ := h
  refine ⟨calls_eq_nil hcalls hcalls', reply, hreply, ?_⟩
  rw [RunPhase.farewells_cons, hends]
  rfl

/-- A worker that is heard of goes on. -/
theorem going_hear (hr : r.Answers due chunks answer) {number : Nat} {host : Host σ}
    {stage : Stage} {news : News} {entries : List RunPhase.Entry} {turn : Turn σ}
    (hturn : hear r p number ⟨c, stage⟩ news host = turn)
    (h : Going p c answer turn.stage (due turn.host.world number) entries) :
    Going p c answer stage (news :: due host.world number)
      (⟨number, turn.trace, turn.farewell?⟩ :: entries) := by
  cases stage with
  | waiting => exact fun hidle => absurd hidle (by simp)
  | done =>
      obtain rfl := hturn
      exact h
  | asking =>
      intro later hdue
      rcases due_cases hdue with ⟨chunk, later, rfl, rfl, hrest⟩ | ⟨rfl, rfl, hrest⟩
      · obtain rfl := hturn
        exact h later hrest
      · exact going_startRun hr hrest hturn h
  | running inv l =>
      intro later result hdue
      rcases due_cases hdue with ⟨chunk, later, rfl, rfl, hrest⟩ | ⟨rfl, rfl, hrest⟩
      · obtain ⟨trace, console, hcalls, ⟨l', hpassed⟩ | ⟨fault, hrefused⟩⟩ :=
          passOn_or_refused r c inv l chunk host
        · obtain rfl := hpassed.symm.trans hturn
          obtain ⟨hcalls', reply, hreply, hends⟩ := h later result hrest
          exact ⟨calls_eq_nil hcalls hcalls', reply, hreply, hends⟩
        · -- The worker ends here, whatever more is due to it.
          obtain rfl := hrefused.symm.trans hturn
          exact going_end hcalls (.inr ⟨fault, rfl⟩) h
      · obtain ⟨trace, console, reply, hcalls, hreply, hfinished⟩ :=
          finish_or_refused r c inv l result host
        obtain rfl := hfinished.symm.trans hturn
        exact going_end hcalls hreply h

/-- **The share of a worker** is one of the ways it can go, whatever the others do and whatever the
console refuses. -/
theorem going_share (hr : r.Answers due chunks answer) {s : RunPhase.State σ} {number : Nat}
    {stage : Stage} (hw : s.workers[number]? = some ⟨c, stage⟩) :
    Going p c answer stage (due s.host.world number)
      (RunPhase.share number (RunPhase.record r p s).1) := by
  have hinv : ∀ {s turn? s'}, RunPhase.Steps r p s turn? s' → True → True := fun _ h => h
  refine RunPhase.share_induction hr.toSeparates hinv ?_ ?_ ?_ trivial hw
  · intro world stage hnext hstage
    rw [hr.next_none hnext]
    exact going_nil hstage
  · intro s entries _ turn h
    exact going_waiting hr h
  · intro s stage heard entries _ hnext hnumber turn h
    have hdue := hr.next_self hnext
    rw [hnumber] at hdue
    rw [hdue]
    exact going_hear hr rfl h

end Worker

/-! ### Failures that are no breakdowns -/

/-- Texts that begin otherwise are different. -/
theorem ne_of_head? {s t : String} (h : s.toList.head? ≠ t.toList.head?) : s ≠ t := by
  rintro rfl
  exact h rfl

namespace Worker

/-- What stands around the failure of a call is not said of a breakdown. -/
theorem mem_chain_envFailure {c : Component} {fault : Fault}
    (h : "run worker did not complete" ∈ (envFailure c fault).chain) :
    "run worker did not complete" ∈ fault.chain := by
  have hresolve : "run worker did not complete" ≠
      "failed to resolve env for component '" ++ c.name ++ "'" := ne_of_head? (by simp)
  have hget : "run worker did not complete" ≠ "failed to get env " ++ c.dir.text :=
    ne_of_head? (by simp)
  simpa [envFailure, Failure.ofFault, Failure.chain, Failure.within, Cause.chain, hresolve, hget]
    using h

theorem mem_chain_runFailure {c : Component} {fault : Fault}
    (h : "run worker did not complete" ∈ (runFailure c fault).chain) :
    "run worker did not complete" ∈ fault.chain := by
  have hrun : "run worker did not complete" ≠ phaseContext .run c :=
    ne_of_head? (by simp [phaseContext])
  simpa [runFailure, Failure.ofFault, Failure.chain, Failure.within, Cause.chain, hrun] using h

end Worker

theorem OrRefused.mem_chain {answer : Except Fault String} {fault : Fault}
    (h : OrRefused answer (.error fault)) (htext : "run worker did not complete" ∈ fault.chain) :
    answer = .error fault := by
  rcases h with hanswer | ⟨refusal, hrefusal⟩
  · exact hanswer.symm
  · obtain rfl := Except.error.inj hrefusal
    cases refusal <;> exact absurd htext (by decide)

/-- A worker that goes one of its ways says that it did not complete exactly if it broke down, as
long as no answer says so. -/
theorem Goes.mem_chain_iff {p : Project} {c : Component}
    {answer : Invocation → Except Fault String} {calls : List Invocation} {f : Farewell}
    {failure : Failure} (h : Goes p c answer calls f) (hf : f.result = .error failure)
    (hfaults : ∀ {inv fault}, answer inv = .error fault →
      "run worker did not complete" ∉ fault.chain) :
    "run worker did not complete" ∈ failure.chain ↔ failure = Worker.broken := by
  constructor
  · intro htext
    cases h with
    | noEnv henv =>
        obtain rfl := Except.error.inj hf
        exact absurd (Worker.mem_chain_envFailure htext) (hfaults henv)
    | broke henv hwidth => exact (Except.error.inj hf).symm
    | @ran printed reply henv hwidth hrun =>
        cases reply with
        | ok output => cases hf
        | error fault =>
            obtain rfl := Except.error.inj hf
            have hfault := Worker.mem_chain_runFailure htext
            exact absurd hfault (hfaults (hrun.mem_chain hfault))
  · rintro rfl
    exact List.mem_cons_self

/-- A worker breaks down exactly if it is given an environment, but its label is too wide. -/
theorem Goes.broken_iff {p : Project} {c : Component} {answer : Invocation → Except Fault String}
    {calls : List Invocation} {f : Farewell} (h : Goes p c answer calls f) :
    f.result = .error Worker.broken ↔
      maxLabelWidth < p.options.labelWidth ∧
        ∃ printed, answer (p.envInvocation c) = .ok printed := by
  cases h with
  | noEnv henv => simp [henv, Worker.broken, Worker.envFailure, Failure.within, Failure.ofFault]
  | broke henv hwidth => simp [henv, hwidth]
  | @ran printed reply henv hwidth hrun =>
      refine iff_of_false ?_ fun ⟨hwide, _⟩ => absurd hwidth (Nat.not_le_of_lt hwide)
      cases reply with
      | ok output => simp [Worker.verdict]
      | error fault =>
          simp [Worker.verdict, Worker.broken, Worker.runFailure, Failure.within, Failure.ofFault]

/-- A worker that breaks down has made its environment call and no other. -/
theorem Goes.calls_of_broken {p : Project} {c : Component}
    {answer : Invocation → Except Fault String} {calls : List Invocation} {f : Farewell}
    (h : Goes p c answer calls f) (hf : f.result = .error Worker.broken) :
    calls = [p.envInvocation c] := by
  have hwide := (h.broken_iff.mp hf).1
  cases h with
  | noEnv henv => rfl
  | broke henv hwidth => rfl
  | ran henv hwidth hrun => exact absurd hwidth (Nat.not_le_of_lt hwide)

/-! ### The whole phase -/

namespace RunPhase

/-- The **breakdowns** of a phase whose calls are answered by `answer`. -/
structure Breakdowns (r : Runner σ) (p : Project) (host : Host σ)
    (answer : Invocation → Except Fault String) : Prop where
  /-- Every component's worker goes one of its ways to the end. -/
  goes : ∀ {number c}, p.components[number]? = some c →
    let own := share number (turns r p host)
    ∃ f, Goes p c answer (Event.calls (deeds own)) f ∧ farewells own = [f]
  /-- A labeller can be made for every label, or for none. -/
  labeller_iff : ∀ label, (Labeller.new? label p.options.labelWidth).isSome ↔
    p.options.labelWidth ≤ maxLabelWidth
  /-- A worker breaks down exactly if labels are too wide and an environment call succeeds. -/
  broken_iff : (∃ f ∈ farewells (turns r p host), f.result = .error Worker.broken) ↔
    maxLabelWidth < p.options.labelWidth ∧
      ∃ c ∈ p.components, ∃ printed, answer (p.envInvocation c) = .ok printed
  /-- The result says that a worker did not complete exactly if one broke down and was the first to
  fail. -/
  chain_iff : ∀ {failure}, (runAll r p host).result = .error failure →
    ("run worker did not complete" ∈ failure.chain ↔ failure = Worker.broken)

variable {r : Runner σ} {p : Project} {host : Host σ} {due : σ → Nat → List News}
  {chunks : Invocation → List Chunk} {answer : Invocation → Except Fault String}

theorem goes_turns (hr : r.Answers due chunks answer)
    (hidle : ∀ number, due host.world number = []) {number : Nat} {c : Component}
    (h : p.components[number]? = some c) :
    ∃ f, Goes p c answer (Event.calls (deeds (share number (turns r p host)))) f ∧
      farewells (share number (turns r p host)) = [f] :=
  Worker.going_share (s := State.start p host) hr (getElem?_start host h) (hidle number)

/-- Every end is that of a component's worker that has gone one of its ways. -/
theorem exists_goes_of_mem_farewells (hr : r.Answers due chunks answer)
    (hidle : ∀ number, due host.world number = []) {f : Farewell}
    (h : f ∈ farewells (turns r p host)) :
    ∃ c ∈ p.components, ∃ calls, Goes p c answer calls f := by
  obtain ⟨number, hnumber, hf⟩ := (mem_farewells_iff number_lt_of_mem_turns).mp h
  have hlt : number < p.components.length := by simpa [Project.components] using hnumber
  obtain ⟨f', hgoes, hends⟩ := goes_turns hr hidle (List.getElem?_eq_getElem hlt)
  obtain rfl : f = f' := by simpa [hends] using hf
  exact ⟨_, List.getElem_mem hlt, _, hgoes⟩

theorem breakdowns_of_answers (hr : r.Answers due chunks answer)
    (hidle : ∀ number, due host.world number = [])
    (hfaults : ∀ {inv fault}, answer inv = .error fault →
      "run worker did not complete" ∉ fault.chain) : Breakdowns r p host answer where
  goes := goes_turns hr hidle
  labeller_iff := by
    intro label
    unfold Labeller.new?
    split <;> simp_all
  broken_iff := by
    constructor
    · rintro ⟨f, hf, hbroken⟩
      obtain ⟨c, hc, calls, hgoes⟩ := exists_goes_of_mem_farewells hr hidle hf
      obtain ⟨hwidth, henv⟩ := hgoes.broken_iff.mp hbroken
      exact ⟨hwidth, c, hc, henv⟩
    · rintro ⟨hwidth, c, hc, henv⟩
      obtain ⟨number, hnumber⟩ := List.mem_iff_getElem?.mp hc
      obtain ⟨f, hgoes, hends⟩ := goes_turns hr hidle hnumber
      have hlt : number < p.descriptor.includes.length := by
        simpa [Project.components] using (List.getElem?_eq_some_iff.mp hnumber).1
      refine ⟨f, (mem_farewells_iff number_lt_of_mem_turns).mpr ⟨number, hlt, ?_⟩,
        hgoes.broken_iff.mpr ⟨hwidth, henv⟩⟩
      rw [hends]
      exact List.mem_singleton_self f
  chain_iff := by
    intro failure hfailure
    obtain ⟨before, f, after, hends, hf, -⟩ := verdict_eq_error_iff.mp hfailure
    have hmem : f ∈ farewells (turns r p host) := by
      rw [turns, hends]
      simp
    obtain ⟨c, -, calls, hgoes⟩ := exists_goes_of_mem_farewells hr hidle hmem
    exact hgoes.mem_chain_iff hf hfaults

end RunPhase

/-- A scripted command that fails says so itself. -/
theorem Script.exists_of_result {s : Script} {command : String} {fault : Fault}
    (h : s.result command = .error fault) :
    ∃ code, fault = .commandFailed command code s.output := by
  unfold result at h
  split at h
  · cases h
  · exact ⟨_, (Except.error.inj h).symm⟩

theorem Script.not_mem_chain {scripts : List Script} {inv : Invocation} {fault : Fault}
    (h : answer scripts inv = .error fault) : "run worker did not complete" ∉ fault.chain := by
  obtain ⟨code, rfl⟩ := exists_of_result h
  have hne : "run worker did not complete" ≠
      "command `" ++ inv.command ++ "` " ++ exitPhrase code := ne_of_head? (by simp)
  exact fun htext => hne (List.mem_singleton.mp htext)

theorem RunPhase.breakdowns_of_scripts (scripts : List Script) (p : Project) {host : Host Agenda}
    (hidle : host.world.appointments = []) :
    Breakdowns (scriptedRunner scripts) p host (Script.answer scripts) := by
  have hr : (scriptedRunner scripts).Answers Agenda.due
      (fun inv => ((Script.find scripts inv.command).chunk? inv).toList) (Script.answer scripts) :=
    scriptedRunner_answers scripts
  have hdue : ∀ number, Agenda.due host.world number = [] := fun number => by
    simp [Agenda.due, Agenda.ofNumber, hidle]
  exact breakdowns_of_answers hr hdue fun {_ _} h => Script.not_mem_chain h

/-- **Breakdowns of run workers.** Whatever settings are used, wherever the program is called,
whatever the root file says, whatever the scripts answer and whatever the console refuses: workers
break down if labels are too wide, and only then. -/
theorem scriptedRunner_breakdowns (s : Settings) (cwd : Path) (d : Descriptor)
    (scripts : List Script) (host : Host Agenda) (hidle : host.world.appointments = []) :
    RunPhase.Breakdowns (scriptedRunner scripts) ⟨d, s.options cwd⟩ host
      (Script.answer scripts) :=
  RunPhase.breakdowns_of_scripts scripts ⟨d, s.options cwd⟩ hidle

/-- Labels of the greatest width, a component without an environment, and a console that refuses
what the other one prints: both workers fail, and none breaks down. -/
theorem scriptedRunner_breakdowns_of_widest :
    let s : Settings := { labelWidth := 65535 }
    let d : Descriptor :=
      ⟨[], [⟨⟨"a/a.mk"⟩, none⟩, ⟨⟨"b/b.mk"⟩, none⟩], [], ⟨"/project/main.mk"⟩⟩
    let scripts : List Script :=
      [{ needle := "a.mk env", reply := .fails (some 2) }, { needle := "b.mk run", output := "up" }]
    let host : Host Agenda := ⟨{}, .refusing (fun _ => true) (fun _ => true)⟩
    host.world.appointments = [] ∧ s.validate = .ok () ∧
      ∀ f ∈ RunPhase.farewells
          (RunPhase.turns (scriptedRunner scripts) ⟨d, s.options ⟨"/project"⟩⟩ host),
        f.result ≠ .error Worker.broken := by
  intro s d scripts host
  refine ⟨rfl, by decide, fun f hf hbroken => ?_⟩
  have h := scriptedRunner_breakdowns s ⟨"/project"⟩ d scripts host rfl
  obtain ⟨hwide, -⟩ := h.broken_iff.mp ⟨f, hf, hbroken⟩
  exact absurd hwide (by decide)

/-- Settings that are accepted, and a worker that breaks down with them: labels are one column too
wide, the environment call succeeds, and the run call is never made. -/
theorem worker_breaks_with_accepted_settings :
    let s : Settings := { labelWidth := 65536 }
    let p : Project :=
      ⟨⟨[], [⟨⟨"a/a.mk"⟩, none⟩], [], ⟨"/project/main.mk"⟩⟩, s.options ⟨"/work"⟩⟩
    let o := runAll (scriptedRunner []) p ⟨{}, .sound⟩
    s.validate = .ok () ∧ o.result = .error Worker.broken ∧
      Event.calls o.trace = p.components.map p.envInvocation := by
  intro s p o
  have h : RunPhase.Breakdowns (scriptedRunner []) p ⟨{}, .sound⟩ (Script.answer []) :=
    RunPhase.breakdowns_of_scripts [] p rfl
  have hfirst : p.components[0]? = some (.ofInclude ⟨⟨"a/a.mk"⟩, none⟩ p.descriptor.baseDir
      p.options.binRoot) := rfl
  obtain ⟨f, hgoes, hends⟩ := h.goes hfirst
  have hall : RunPhase.share 0 (RunPhase.turns (scriptedRunner []) p ⟨{}, .sound⟩) =
      RunPhase.turns (scriptedRunner []) p ⟨{}, .sound⟩ := RunPhase.share_zero_of_length rfl
  rw [hall] at hgoes hends
  have hbroken : f.result = .error Worker.broken := hgoes.broken_iff.mpr ⟨by decide, "", rfl⟩
  refine ⟨by decide, (RunPhase.verdict_of_farewells hends).trans hbroken, ?_⟩
  exact (RunPhase.calls_tell ..).trans (hgoes.calls_of_broken hbroken)

end Ensemble
