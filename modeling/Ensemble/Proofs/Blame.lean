import Ensemble.Proofs.Freshness

/-!
# Ensemble.Proofs.Blame

**What a command blames when it fails.** A failure is told from the outside in: the stage of the
command, the check or the component, and at last what the runner reported. `Blames` says which
failure belongs to which answers, one case for each way to fail. The main result,
`dispatch_blames`, says that a command fails exactly if its answers blame something, with any runner
whatever, and that the fault of the first call that went wrong stands in the failure as it was.

The checks and the phases that take the components one by one stop at the call that fails, so this
call is found at the end of what they were answered (`UpToFailure.exists_stop`). The run phase goes
on, and two workers can have made the same call; so there the worker is found by the turn in which
it ends (`RunPhase.FirstToFail`), and the answer in this turn says why (`Worker.Reports`).

Both directions go through `Decides`: the answers of a command decide its result
(`dispatch_decides`), and the same answers decide the same (`Decides.unique`).
-/

namespace Ensemble

/-! ### Causes -/

/-- The texts of what caused a fault. -/
def Fault.causes : Fault → List String
  | .io fault => [fault.message]
  | .outside _ causes => causes
  | _ => []

/-- A fault is told by its own text, and then by its causes. -/
theorem Fault.chain_eq (f : Fault) : f.chain = f.message :: f.causes := by
  cases f <;> rfl

theorem Failure.chain_of_fault (contexts : List String) (f : Fault) :
    (Failure.mk contexts (.fault f)).chain = contexts ++ f.message :: f.causes :=
  congrArg (contexts ++ ·) f.chain_eq

/-! ### What is done one by one -/

/-- If something fails, it was answered last, and all that stands before it was done. -/
theorem UpToFailure.exists_stop {f : α → Errand} {xs : List α} {answers : List Answered}
    {failure : Failure} (h : UpToFailure (xs.map f) answers (.error failure)) :
    ∃ before x behind passed reply, xs = before ++ x :: behind ∧
      UpToFailure (before.map f) passed (.ok ()) ∧ answers = passed ++ [((f x).inv, reply)] ∧
      (f x).verdict reply = .error failure := by
  induction xs generalizing answers with
  | nil => cases h
  | cons x xs ih =>
      rw [List.map_cons] at h
      cases h with
      | @goesOn _ reply _ answers _ hok rest =>
          obtain ⟨before, y, behind, passed, last, rfl, hpassed, rfl, hfails⟩ := ih rest
          exact ⟨x :: before, y, behind, ((f x).inv, reply) :: passed, last, rfl,
            .goesOn hok hpassed, rfl, hfails⟩
      | @stops _ reply _ _ hfails => exact ⟨[], x, xs, [], reply, rfl, .done, rfl, hfails⟩

/-- Behind errands that were done, one that fails is the last. -/
theorem UpToFailure.stop {before behind errands : List Errand} {e : Errand}
    {passed : List Answered} {reply : Except Fault String} {failure : Failure}
    (h : UpToFailure before passed (.ok ())) (hfails : e.verdict reply = .error failure)
    (herrands : errands = before ++ e :: behind) :
    UpToFailure errands (passed ++ [(e.inv, reply)]) (.error failure) := by
  subst herrands
  generalize hresult : Except.ok () = result at h
  induction h with
  | done => exact .stops hfails
  | goesOn hok rest ih => exact .goesOn hok (ih hresult)
  | stops => cases hresult

/-- The first errand is answered first, and its verdict tells whether that is all. -/
theorem UpToFailure.exists_first {e : Errand} {errands : List Errand} {answers : List Answered}
    {result : Except Failure Unit} (h : UpToFailure (e :: errands) answers result) :
    ∃ reply rest, answers = (e.inv, reply) :: rest ∧
      match e.verdict reply with
      | .ok () => UpToFailure errands rest result
      | .error failure => rest = [] ∧ result = .error failure := by
  cases h with
  | goesOn hok rest => exact ⟨_, _, rfl, by rwa [hok]⟩
  | stops hfails => exact ⟨_, _, rfl, by rw [hfails]; exact ⟨rfl, rfl⟩⟩

/-- What was answered decides how far errands were done, whatever was answered behind. -/
theorem UpToFailure.unique {errands : List Errand} {answers answers' rest rest' : List Answered}
    {result result' : Except Failure Unit} (h : UpToFailure errands answers result)
    (h' : UpToFailure errands answers' result') (hsame : answers ++ rest = answers' ++ rest') :
    answers = answers' ∧ result = result' := by
  induction errands generalizing answers answers' with
  | nil =>
      cases h
      cases h'
      exact ⟨rfl, rfl⟩
  | cons e errands ih =>
      obtain ⟨reply, own, rfl, hown⟩ := h.exists_first
      obtain ⟨reply', own', rfl, hown'⟩ := h'.exists_first
      -- The first answers are the same, and so is the verdict on them.
      obtain ⟨hfirst, hbehind⟩ := List.cons.inj hsame
      obtain ⟨-, rfl⟩ := Prod.mk.inj hfirst
      cases hverdict : e.verdict reply with
      | ok =>
          simp only [hverdict] at hown hown'
          obtain ⟨rfl, rfl⟩ := ih hown hown' hbehind
          exact ⟨rfl, rfl⟩
      | error failure =>
          simp only [hverdict] at hown hown'
          obtain ⟨rfl, rfl⟩ := hown
          obtain ⟨rfl, rfl⟩ := hown'
          exact ⟨rfl, rfl⟩

/-- How checks stop: behind some that have passed, one fails. -/
inductive ChecksStop (checks : List Check) : List Answered → List String → Fault → Prop
  /-- Its command fails. -/
  | fails {before behind : List Check} {c : Check} {passed : List Answered} {fault : Fault}
    (hchecks : checks = before ++ c :: behind)
    (hpassed : UpToFailure (before.map Check.errand) passed (.ok ())) :
    ChecksStop checks (passed ++ [(c.invocation, .error fault)])
      ["failed to run check `" ++ c.command ++ "`"] fault
  /-- Its command succeeds, but the output lacks the text. -/
  | lacks {before behind : List Check} {c : Check} {passed : List Answered} {output : String}
    (hchecks : checks = before ++ c :: behind)
    (hpassed : UpToFailure (before.map Check.errand) passed (.ok ()))
    (hlacks : ¬Text.contains output c.equals) :
    ChecksStop checks (passed ++ [(c.invocation, .ok output)]) []
      (.checkFailed c.command c.equals output)

/-- How a phase that takes the components one by one stops: behind some that have passed, the call
of one fails. -/
inductive PassStops (p : Project) (phase : Phase) :
    List Answered → List String → Fault → Prop
  | fails {before behind : List Component} {c : Component} {passed : List Answered} {fault : Fault}
    (hcomponents : p.components = before ++ c :: behind)
    (hpassed : UpToFailure (before.map (p.errand phase)) passed (.ok ())) :
    PassStops p phase (passed ++ [(p.phaseInvocation phase c, .error fault)])
      ["failed to " ++ phase.target ++ " component '" ++ c.name ++ "' in " ++ c.dir.text] fault

theorem UpToFailure.checksStop {checks : List Check} {answers : List Answered} {failure : Failure}
    (h : UpToFailure (checks.map Check.errand) answers (.error failure)) :
    ∃ contexts fault, failure = ⟨contexts, .fault fault⟩ ∧
      ChecksStop checks answers contexts fault := by
  obtain ⟨before, c, behind, passed, reply, hchecks, hpassed, rfl, hfails⟩ := h.exists_stop
  change c.verdict reply = .error failure at hfails
  cases reply with
  | error fault =>
      obtain rfl := Except.error.inj hfails
      exact ⟨_, fault, rfl, .fails hchecks hpassed⟩
  | ok output =>
      dsimp only [Check.verdict] at hfails
      split at hfails <;> rename_i hcontains <;> cases hfails
      exact ⟨_, _, rfl, .lacks hchecks hpassed hcontains⟩

theorem UpToFailure.passStops {p : Project} {phase : Phase} {answers : List Answered}
    {failure : Failure}
    (h : UpToFailure (p.components.map (p.errand phase)) answers (.error failure)) :
    ∃ contexts fault, failure = ⟨contexts, .fault fault⟩ ∧
      PassStops p phase answers contexts fault := by
  obtain ⟨before, c, behind, passed, reply, hcomponents, hpassed, rfl, hfails⟩ := h.exists_stop
  cases reply with
  | ok output => cases hfails
  | error fault =>
      obtain rfl := Except.error.inj hfails
      exact ⟨_, fault, rfl, .fails hcomponents hpassed⟩

theorem ChecksStop.upToFailure {checks : List Check} {answers : List Answered}
    {contexts : List String} {fault : Fault} (h : ChecksStop checks answers contexts fault) :
    UpToFailure (checks.map Check.errand) answers (.error ⟨contexts, .fault fault⟩) := by
  cases h with
  | @fails before behind c passed _ hchecks hpassed =>
      have hfails : c.errand.verdict (.error fault) = .error _ := rfl
      exact hpassed.stop hfails (by rw [hchecks, List.map_append, List.map_cons])
  | @lacks before behind c passed output hchecks hpassed hlacks =>
      have hfails : c.errand.verdict (.ok output) = .error _ := if_neg hlacks
      exact hpassed.stop hfails (by rw [hchecks, List.map_append, List.map_cons])

theorem PassStops.upToFailure {p : Project} {phase : Phase} {answers : List Answered}
    {contexts : List String} {fault : Fault} (h : PassStops p phase answers contexts fault) :
    UpToFailure (p.components.map (p.errand phase)) answers
      (.error ⟨contexts, .fault fault⟩) := by
  cases h with
  | @fails before behind c passed _ hcomponents hpassed =>
      have hfails : (p.errand phase c).verdict (.error fault) = .error _ := rfl
      exact hpassed.stop hfails (by rw [hcomponents, List.map_append, List.map_cons])

/-! ### The run phase -/

namespace Worker

/-- What is answered in a turn decides whether the worker ends with it, and how. -/
inductive Reports (p : Project) (c : Component) : List Answered → Option Farewell → Prop
  | nothing : Reports p c [] none
  | asked (printed : String) : Reports p c [(p.envInvocation c, .ok printed)] none
  | noEnv (fault : Fault) :
    Reports p c [(p.envInvocation c, .error fault)] (some ⟨c.name, .error (envFailure c fault)⟩)
  | ran (printed : String) (reply : Except Fault String) :
    Reports p c [(p.runInvocation c printed, reply)] (some ⟨c.name, verdict c reply⟩)

/-- The run call that a worker waits for is one of its component. -/
def Waits (p : Project) (c : Component) (stage : Stage) : Prop :=
  ∀ {inv l}, stage = .running inv l → ∃ printed, inv = p.runInvocation c printed

variable {p : Project} {c : Component}

theorem waits_running (printed : String) (l : Labeller) :
    Waits p c (.running (p.runInvocation c printed) l) := by
  intro inv l' h
  cases h
  exact ⟨printed, rfl⟩

/-- A worker that does not fail has been answered nothing that failed. -/
theorem Reports.succeeded {answers : List Answered} {farewell? : Option Farewell}
    (h : Reports p c answers farewell?) (hfailure : farewell?.bind Farewell.failure? = none) :
    Succeeded answers := by
  cases h with
  | nothing => exact nofun
  | asked printed => exact List.forall_mem_singleton.mpr ⟨printed, rfl⟩
  | noEnv fault => cases hfailure
  | ran printed reply =>
      cases reply with
      | ok output => exact List.forall_mem_singleton.mpr ⟨output, rfl⟩
      | error fault => cases hfailure

theorem envInvocation_ne_runInvocation (p : Project) (c : Component) (printed : String) :
    p.envInvocation c ≠ p.runInvocation c printed := by
  intro hsame
  have hcapture : (p.envInvocation c).capture = .sink := congrArg Invocation.capture hsame
  unfold Project.envInvocation at hcapture
  split at hcapture <;> cases hcapture

/-- How the worker ends is told by what was answered. -/
theorem Reports.unique {answers answers' : List Answered} {farewell? farewell?' : Option Farewell}
    (h : Reports p c answers farewell?) (h' : Reports p c answers' farewell?')
    (hsame : answers = answers') : farewell? = farewell?' := by
  -- An environment call is no run call, so the answer tells which of the two it was.
  have hne := envInvocation_ne_runInvocation p c
  have hne' := fun printed => (hne printed).symm
  cases h <;> cases h' <;> simp_all

/-- A turn that ends the run call reports it. -/
theorem reports_of_ends {printed : String} {turn : Turn σ}
    (h : Ends c (p.runInvocation c printed) turn) :
    Reports p c (Event.answers turn.trace) turn.farewell? ∧ Waits p c turn.stage := by
  obtain ⟨reply, hstage, -, hanswers, hfarewell⟩ := h
  rw [hanswers, hfarewell, hstage]
  exact ⟨.ran printed reply, nofun⟩

/-- A worker that is heard of reports what it was answered. -/
theorem reports_hear (hwidth : p.options.labelWidth ≤ maxLabelWidth) (r : Runner σ) (number : Nat)
    {stage : Stage} (hwaits : Waits p c stage) (news : News) (host : Host σ) :
    let turn := hear r p number ⟨c, stage⟩ news host
    Reports p c (Event.answers turn.trace) turn.farewell? ∧ Waits p c turn.stage := by
  cases stage with
  | waiting => exact ⟨.nothing, nofun⟩
  | done => exact ⟨.nothing, nofun⟩
  | asking =>
      cases news with
      | chunk chunk => exact ⟨.nothing, nofun⟩
      | ended answer =>
          cases answer with
          | error fault => exact ⟨.noEnv fault, nofun⟩
          | ok printed =>
              simp only [hear, startRun_ok hwidth]
              exact ⟨.asked printed, waits_running printed _⟩
  | running inv l =>
      obtain ⟨printed, rfl⟩ := hwaits rfl
      cases news with
      | ended result => exact reports_of_ends (finish_ends r c _ l result host)
      | chunk chunk =>
          rcases passOn_cases r c (p.runInvocation c printed) l chunk host with
            hends | ⟨l', trace, console, -, hanswers, hpassed⟩
          · -- The console refused: the call is answered all the same, by that fault.
            exact reports_of_ends hends
          · simp only [hear, hpassed, hanswers]
            exact ⟨.nothing, waits_running printed l'⟩

theorem reports_share (hwidth : p.options.labelWidth ≤ maxLabelWidth) (r : Runner σ)
    {s : RunPhase.State σ} {number : Nat} {stage : Stage}
    (hw : s.workers[number]? = some ⟨c, stage⟩) (hwaits : Waits p c stage) :
    ∀ e ∈ RunPhase.share number (RunPhase.record r p s).1,
      Reports p c (Event.answers e.trace) e.farewell? := by
  have hinv : ∀ {s turn? s'}, RunPhase.Steps r p s turn? s' → True → True := fun _ h => h
  -- The run call is carried along with the stage, from the turn in which it is started.
  revert hwaits
  refine RunPhase.share_induction (motive := fun stage _ entries => Waits p c stage →
    ∀ e ∈ entries, Reports p c (Event.answers e.trace) e.farewell?)
    r.separates_unit hinv ?_ ?_ ?_ trivial hw
  · intro world stage _ _ _ e he
    cases he
  · intro s entries _ turn h _
    exact List.forall_mem_cons.mpr ⟨.nothing, h nofun⟩
  · intro s stage heard entries _ _ _ turn h hwaits
    obtain ⟨hreports, hwaits'⟩ := reports_hear hwidth r number hwaits heard.news _
    exact List.forall_mem_cons.mpr ⟨hreports, h hwaits'⟩

end Worker

namespace RunPhase

/-- Each turn is that of a component's worker, which reports in it what it was answered. -/
def Reported (p : Project) (turns : List Entry) : Prop :=
  ∀ e ∈ turns, ∃ c, p.components[e.number]? = some c ∧
    Worker.Reports p c (Event.answers e.trace) e.farewell?

theorem reported_turns (r : Runner σ) {p : Project} (hwidth : p.options.labelWidth ≤ maxLabelWidth)
    (host : Host σ) : Reported p (turns r p host) := by
  intro e he
  have hlt : e.number < p.components.length := number_lt_length_components e he
  have hc : p.components[e.number]? = some p.components[e.number] := List.getElem?_eq_getElem hlt
  exact ⟨_, hc, Worker.reports_share hwidth r (getElem?_start host hc) nofun e
    (List.mem_filter.mpr ⟨he, by simp⟩)⟩

variable {p : Project} {turns : List Entry} {failure : Failure}

/-- As long as no worker fails, no call does. -/
theorem Reported.succeeded (h : Reported p turns) (hnone : ∀ e ∈ turns, e.failure? = none) :
    Succeeded (Event.answers (deeds turns)) := by
  induction turns with
  | nil => exact nofun
  | cons e turns ih =>
      obtain ⟨⟨c, -, hreports⟩, hrest⟩ := List.forall_mem_cons.mp h
      obtain ⟨he, hnone⟩ := List.forall_mem_cons.mp hnone
      rw [deeds_cons, Event.answers_append]
      exact succeeded_append.mpr ⟨hreports.succeeded he, ih hrest hnone⟩

/-- The worker of the component `c` is the first that ends with a failure, in the turn `e`. -/
structure FirstToFail (p : Project) (turns : List Entry) (e : Entry) (c : Component) : Prop where
  component : p.components[e.number]? = some c
  fails : e.failure? ≠ none
  first : ∃ earlier later, turns = earlier ++ e :: later ∧ ∀ e' ∈ earlier, e'.failure? = none

theorem FirstToFail.mem {e : Entry} {c : Component} (h : FirstToFail p turns e c) : e ∈ turns := by
  obtain ⟨earlier, later, rfl, -⟩ := h.first
  exact List.mem_append_right _ List.mem_cons_self

/-- The phase ends with the failure of the worker that is the first to fail. -/
theorem verdict_eq_error_iff_firstToFail (hreported : Reported p turns) :
    verdict turns = .error failure ↔
      ∃ e c, FirstToFail p turns e c ∧ e.failure? = some failure := by
  have hfirst : verdict turns = .error failure ↔
      turns.findSome? Entry.failure? = some failure := by
    unfold verdict
    cases turns.findSome? Entry.failure? <;> simp
  rw [hfirst, List.findSome?_eq_some_iff]
  constructor
  · rintro ⟨earlier, e, later, rfl, hfailure, hearlier⟩
    obtain ⟨c, hc, -⟩ := hreported e (List.mem_append_right _ List.mem_cons_self)
    exact ⟨e, c, ⟨hc, hfailure ▸ nofun, earlier, later, rfl, hearlier⟩, hfailure⟩
  · rintro ⟨e, c, ⟨-, -, earlier, later, rfl, hearlier⟩, hfailure⟩
    exact ⟨earlier, e, later, rfl, hfailure, hearlier⟩

/-- What the worker of a component that is the first to fail was answered tells how it ends. -/
theorem FirstToFail.failure?_eq {e : Entry} {c : Component} (h : FirstToFail p turns e c)
    (hreported : Reported p turns) {answers : List Answered}
    (hanswers : Event.answers e.trace = answers) {farewell? : Option Farewell}
    (hreports : Worker.Reports p c answers farewell?) :
    e.failure? = farewell?.bind Farewell.failure? := by
  obtain ⟨c', hc', hown⟩ := hreported e h.mem
  obtain rfl : c' = c := Option.some.inj (hc'.symm.trans h.component)
  rw [Entry.failure?, hown.unique hreports hanswers]

end RunPhase

/-- How the run phase fails: by the worker that is the first to end with a failure. -/
inductive RunStops (p : Project) (turns : List RunPhase.Entry) : List String → Fault → Prop
  /-- Its environment call fails. -/
  | noEnv {e : RunPhase.Entry} {c : Component} {fault : Fault}
    (hfirst : RunPhase.FirstToFail p turns e c)
    (hanswer : Event.answers e.trace = [(p.envInvocation c, .error fault)]) :
    RunStops p turns
      ["failed to resolve env for component '" ++ c.name ++ "'", "failed to get env " ++ c.dir.text]
      fault
  /-- Its run call fails. -/
  | fails {e : RunPhase.Entry} {c : Component} {printed : String} {fault : Fault}
    (hfirst : RunPhase.FirstToFail p turns e c)
    (hanswer : Event.answers e.trace = [(p.runInvocation c printed, .error fault)]) :
    RunStops p turns ["failed to run component '" ++ c.name ++ "' in " ++ c.dir.text] fault

section

variable {p : Project} {turns : List RunPhase.Entry} {failure : Failure} {contexts : List String}
  {fault : Fault}

theorem RunPhase.Reported.runStops (hreported : RunPhase.Reported p turns)
    (h : RunPhase.verdict turns = .error failure) :
    ∃ contexts fault, failure = ⟨contexts, .fault fault⟩ ∧ RunStops p turns contexts fault := by
  obtain ⟨e, c, hfirst, hfailure⟩ := (verdict_eq_error_iff_firstToFail hreported).mp h
  obtain ⟨c', hc', hreports⟩ := hreported e hfirst.mem
  obtain rfl : c' = c := Option.some.inj (hc'.symm.trans hfirst.component)
  -- What is answered in the turn and how the worker ends go together, so both are generalized.
  unfold Entry.failure? at hfailure
  generalize hanswers : Event.answers e.trace = answers at hreports
  generalize e.farewell? = farewell? at hreports hfailure
  cases hreports with
  | nothing => cases hfailure
  | asked printed => cases hfailure
  | noEnv fault =>
      cases hfailure
      exact ⟨_, fault, rfl, .noEnv hfirst hanswers⟩
  | ran printed reply =>
      cases reply with
      | ok output => cases hfailure
      | error fault =>
          cases hfailure
          exact ⟨_, fault, rfl, .fails hfirst hanswers⟩

theorem RunStops.verdict_eq (h : RunStops p turns contexts fault)
    (hreported : RunPhase.Reported p turns) :
    RunPhase.verdict turns = .error ⟨contexts, .fault fault⟩ := by
  refine (RunPhase.verdict_eq_error_iff_firstToFail hreported).mpr ?_
  cases h with
  | noEnv hfirst hanswer =>
      exact ⟨_, _, hfirst, hfirst.failure?_eq hreported hanswer (.noEnv fault)⟩
  | fails hfirst hanswer =>
      exact ⟨_, _, hfirst, hfirst.failure?_eq hreported hanswer (.ran _ (.error fault))⟩

end

/-! ### Commands -/

/-- **How a command fails**: what its calls are answered, the circumstances that are told, the
outermost first, and the fault. If the run phase is reached, `turns` are its turns. -/
inductive Blames (p : Project) (command : Option Command) (turns : List RunPhase.Entry) :
    List Answered → List String → Fault → Prop
  /-- The checks stop. -/
  | checks {answers : List Answered} {contexts : List String} {fault : Fault}
    (hstops : ChecksStop p.descriptor.checks answers contexts fault) :
    Blames p command turns answers ("failed to TestChecks" :: contexts) fault
  /-- The checks pass, and the phase stops that takes the components one by one. -/
  | pass {checked made : List Answered} {contexts : List String} {fault : Fault}
    (hchecked : UpToFailure (p.descriptor.checks.map Check.errand) checked (.ok ()))
    (hstops : PassStops p (phaseOf command).1 made contexts fault) :
    Blames p command turns (checked ++ made) (("failed to " ++ (phaseOf command).2) :: contexts)
      fault
  /-- The checks pass, everything is built, and the run phase fails. -/
  | run {checked made : List Answered} {contexts : List String} {fault : Fault}
    (hcommand : command = none)
    (hchecked : UpToFailure (p.descriptor.checks.map Check.errand) checked (.ok ()))
    (hmade : UpToFailure (p.components.map (p.errand .build)) made (.ok ()))
    (hstops : RunStops p turns contexts fault) :
    Blames p command turns (checked ++ (made ++ Event.answers (RunPhase.deeds turns)))
      ("failed to RunAll" :: contexts) fault

/-- The answer that a fault goes back to: the first that is an error, and this very fault; or that
of a check whose output lacks the text. -/
def Traces (p : Project) (answers : List Answered) (fault : Fault) : Prop :=
  ∃ before inv reply behind, answers = before ++ (inv, reply) :: behind ∧ Succeeded before ∧
    (reply = .error fault ∨ ∃ c ∈ p.descriptor.checks, ∃ output,
      inv = c.invocation ∧ reply = .ok output ∧ fault = .checkFailed c.command c.equals output)

section

variable {p : Project} {command : Option Command} {turns : List RunPhase.Entry}
  {answers before : List Answered} {contexts : List String} {fault : Fault} {failure : Failure}

theorem Traces.within (h : Traces p answers fault) (hbefore : Succeeded before) :
    Traces p (before ++ answers) fault := by
  obtain ⟨between, inv, reply, behind, rfl, hbetween, hreply⟩ := h
  exact ⟨before ++ between, inv, reply, behind, (List.append_assoc _ _ _).symm,
    succeeded_append.mpr ⟨hbefore, hbetween⟩, hreply⟩

theorem ChecksStop.traces (h : ChecksStop p.descriptor.checks answers contexts fault) :
    Traces p answers fault := by
  cases h with
  | fails hchecks hpassed =>
      obtain ⟨-, hsucceeded, -⟩ := hpassed.checks_of_ok rfl
      exact ⟨_, _, _, [], rfl, hsucceeded, .inl rfl⟩
  | lacks hchecks hpassed hlacks =>
      obtain ⟨-, hsucceeded, -⟩ := hpassed.checks_of_ok rfl
      exact ⟨_, _, _, [], rfl, hsucceeded,
        .inr ⟨_, hchecks ▸ List.mem_append_right _ List.mem_cons_self, _, rfl, rfl, rfl⟩⟩

theorem PassStops.traces {phase : Phase} (h : PassStops p phase answers contexts fault) :
    Traces p answers fault := by
  cases h with
  | fails hcomponents hpassed =>
      exact ⟨_, _, _, [], rfl, (hpassed.components_of_ok rfl).2, .inl rfl⟩

theorem RunPhase.FirstToFail.traces {e : RunPhase.Entry} {c : Component} {inv : Invocation}
    (h : RunPhase.FirstToFail p turns e c) (hreported : RunPhase.Reported p turns)
    (hanswer : Event.answers e.trace = [(inv, .error fault)]) :
    Traces p (Event.answers (RunPhase.deeds turns)) fault := by
  obtain ⟨earlier, later, rfl, hearlier⟩ := h.first
  have hsucceeded : Succeeded (Event.answers (RunPhase.deeds earlier)) :=
    RunPhase.Reported.succeeded (fun e he => hreported e (List.mem_append_left _ he)) hearlier
  refine ⟨_, inv, _, Event.answers (RunPhase.deeds later), ?_, hsucceeded, .inl rfl⟩
  rw [RunPhase.deeds, List.flatMap_append, Event.answers_append, List.flatMap_cons,
    Event.answers_append, hanswer]
  rfl

theorem RunStops.traces (h : RunStops p turns contexts fault)
    (hreported : RunPhase.Reported p turns) :
    Traces p (Event.answers (RunPhase.deeds turns)) fault := by
  cases h with
  | noEnv hfirst hanswer => exact hfirst.traces hreported hanswer
  | fails hfirst hanswer => exact hfirst.traces hreported hanswer

theorem Blames.traces (h : Blames p command turns answers contexts fault)
    (hreported : RunPhase.Reported p turns) : Traces p answers fault := by
  cases h with
  | checks hstops => exact hstops.traces
  | pass hchecked hstops => exact hstops.traces.within (hchecked.checks_of_ok rfl).2.1
  | run hcommand hchecked hmade hstops =>
      exact ((hstops.traces hreported).within (hmade.components_of_ok rfl).2).within
        (hchecked.checks_of_ok rfl).2.1

end

/-! ### Answers decide -/

/-- Errands decide a result by the first of them that fails, as it is seen from further out. If all
are done, it is decided behind them. -/
inductive DecidedBy (errands : List Errand) (context : String)
    (behind : List Answered → Except Failure Unit → Prop) :
    List Answered → Except Failure Unit → Prop
  | fails {answers : List Answered} {failure : Failure}
    (h : UpToFailure errands answers (.error failure)) :
    DecidedBy errands context behind answers (.error (failure.within context))
  | goesOn {own rest : List Answered} {result : Except Failure Unit}
    (h : UpToFailure errands own (.ok ())) (hrest : behind rest result) :
    DecidedBy errands context behind (own ++ rest) result

/-- Without a command, the run phase decides behind all errands. -/
inductive Concludes (command : Option Command) (turns : List RunPhase.Entry) :
    List Answered → Except Failure Unit → Prop
  | done (hcommand : command ≠ none) : Concludes command turns [] (.ok ())
  | ran (hcommand : command = none) :
    Concludes command turns (Event.answers (RunPhase.deeds turns))
      ((RunPhase.verdict turns).mapError (·.within "failed to RunAll"))

/-- What a command is answered, and the result that this decides. -/
def Decides (p : Project) (command : Option Command) (turns : List RunPhase.Entry) :
    List Answered → Except Failure Unit → Prop :=
  DecidedBy (p.descriptor.checks.map Check.errand) "failed to TestChecks" <|
    DecidedBy (p.components.map (p.errand (phaseOf command).1))
      ("failed to " ++ (phaseOf command).2) (Concludes command turns)

section

variable {p : Project} {command : Option Command} {turns : List RunPhase.Entry}
  {answers answers' : List Answered} {result result' : Except Failure Unit}
  {contexts : List String} {fault : Fault} {failure : Failure}

theorem DecidedBy.unique {errands : List Errand} {context : String}
    {behind : List Answered → Except Failure Unit → Prop}
    (hbehind : ∀ answers result result', behind answers result → behind answers result' →
      result = result')
    (h : DecidedBy errands context behind answers result)
    (h' : DecidedBy errands context behind answers' result') (hsame : answers = answers') :
    result = result' := by
  cases h with
  | fails hfails =>
      rw [← List.append_nil answers] at hsame
      cases h' with
      | fails hfails' =>
          rw [← List.append_nil answers'] at hsame
          obtain ⟨-, hfailure⟩ := hfails.unique hfails' hsame
          rw [Except.error.inj hfailure]
      | goesOn hdone' => cases (hfails.unique hdone' hsame).2
  | goesOn hdone hrest =>
      cases h' with
      | fails hfails' =>
          rw [← List.append_nil answers'] at hsame
          cases (hdone.unique hfails' hsame).2
      | goesOn hdone' hrest' =>
          obtain ⟨rfl, -⟩ := hdone.unique hdone' hsame
          obtain rfl := List.append_cancel_left hsame
          exact hbehind _ _ _ hrest hrest'

theorem Concludes.unique (h : Concludes command turns answers result)
    (h' : Concludes command turns answers' result') : result = result' := by
  cases h with
  | done hcommand =>
      cases h' with
      | done => rfl
      | ran hcommand' => exact absurd hcommand' hcommand
  | ran hcommand =>
      cases h' with
      | done hcommand' => exact absurd hcommand hcommand'
      | ran => rfl

/-- The same answers decide the same result. -/
theorem Decides.unique (h : Decides p command turns answers result)
    (h' : Decides p command turns answers result') : result = result' := by
  refine DecidedBy.unique (fun _ _ _ hmade hmade' => ?_) h h' rfl
  exact DecidedBy.unique (fun _ _ _ hlast hlast' => hlast.unique hlast') hmade hmade' rfl

/-- Answers that decide for a failure blame something. -/
theorem Decides.blames (h : Decides p command turns answers result)
    (hreported : RunPhase.Reported p turns) (hresult : result = .error failure) :
    ∃ contexts fault, Blames p command turns answers contexts fault ∧
      failure = ⟨contexts, .fault fault⟩ := by
  cases h with
  | fails hfails =>
      obtain ⟨contexts, fault, rfl, hstops⟩ := hfails.checksStop
      obtain rfl := Except.error.inj hresult
      exact ⟨_, fault, .checks hstops, rfl⟩
  | goesOn hchecked hrest =>
      cases hrest with
      | fails hfails =>
          obtain ⟨contexts, fault, rfl, hstops⟩ := hfails.passStops
          obtain rfl := Except.error.inj hresult
          exact ⟨_, fault, .pass hchecked hstops, rfl⟩
      | goesOn hmade hlast =>
          cases hlast with
          | done => cases hresult
          | ran hcommand =>
              subst hcommand
              cases hverdict : RunPhase.verdict turns with
              | ok =>
                  rw [hverdict] at hresult
                  cases hresult
              | error inner =>
                  rw [hverdict] at hresult
                  obtain ⟨contexts, fault, rfl, hstops⟩ := hreported.runStops hverdict
                  obtain rfl := Except.error.inj hresult
                  exact ⟨_, fault, .run rfl hchecked hmade hstops, rfl⟩

/-- What answers blame is what they decide for. -/
theorem Blames.decides (h : Blames p command turns answers contexts fault)
    (hreported : RunPhase.Reported p turns) :
    Decides p command turns answers (.error ⟨contexts, .fault fault⟩) := by
  -- The failure of a part, seen from the command, has one circumstance more.
  cases h with
  | checks hstops => exact DecidedBy.fails hstops.upToFailure
  | pass hchecked hstops => exact .goesOn hchecked (.fails hstops.upToFailure)
  | run hcommand hchecked hmade hstops =>
      subst hcommand
      have hran : Concludes none turns _ _ := .ran rfl
      rw [hstops.verdict_eq hreported] at hran
      exact .goesOn hchecked (.goesOn hmade hran)

end

theorem dispatch_decides (r : Runner σ) (p : Project) (command : Option Command) (host : Host σ) :
    let built := runPhaseInOrder r p .build (checkAll r p.descriptor.checks host).host
    Decides p command (RunPhase.turns r p built.host)
      (Event.answers (dispatch r p command host).trace) (dispatch r p command host).result := by
  intro built
  have hdispatched := dispatch_dispatched r p command host
  have hchecks := (checkAll_does r p.descriptor.checks host).upToFailure
  generalize dispatch r p command host = o at hdispatched ⊢
  cases hdispatched with
  | stopped hchecked hfails =>
      rw [hchecked, hfails] at hchecks
      exact .fails hchecks
  | @failed checked made _ hchecked hpassed hmade hfails =>
      have hphase := (runPhaseInOrder_does r p (phaseOf command).1 checked.host).upToFailure
      rw [hchecked, hpassed] at hchecks
      rw [hmade, hfails] at hphase
      rw [Event.answers_append]
      exact .goesOn hchecks (.fails hphase)
  | @done checked made hcommand hchecked hpassed hmade hsucceeds =>
      have hphase := (runPhaseInOrder_does r p (phaseOf command).1 checked.host).upToFailure
      rw [hchecked, hpassed] at hchecks
      rw [hmade, hsucceeds] at hphase
      rw [Event.answers_append, ← List.append_nil (Event.answers made.trace)]
      exact .goesOn hchecks (.goesOn hphase (.done hcommand))
  | @ran checked made ran hcommand hchecked hpassed hmade hsucceeds hran =>
      have hphase := (runPhaseInOrder_does r p .build checked.host).upToFailure
      obtain rfl : built = made := by rw [← hmade, ← hchecked]
      rw [hchecked, hpassed] at hchecks
      rw [hmade, hsucceeds] at hphase
      have hanswers : Event.answers (runAll r p built.host).trace =
          Event.answers (RunPhase.deeds (RunPhase.turns r p built.host)) :=
        RunPhase.answers_tell false _
      rw [Event.answers_append, Event.answers_append, ← hran, hanswers]
      subst hcommand
      exact .goesOn hchecks (.goesOn hphase (.ran rfl))

section

variable {answer : List Invocation → Invocation → Except Fault String} {p : Project} {c : Component}
  {components : List Component} {fault : Fault}

/-- Without checks, and with builds that always succeed, everything is run. -/
theorem result_dispatch_ofHistory (hchecks : p.descriptor.checks = [])
    (hbuilds : ∀ past, ∀ c ∈ p.components,
      ∃ output, answer past (p.phaseInvocation .build c) = .ok output) (console : Console) :
    (dispatch (.ofHistory answer) p none ⟨([], []), console⟩).result =
      (runAll (.ofHistory answer) p
        ⟨(p.components.map (p.phaseInvocation .build), []), console⟩).result.mapError
          (·.within "failed to RunAll") := by
  obtain ⟨trace, hbuilt⟩ := runInOrder_ofHistory hbuilds [] console
  have hchecked : checkAll (.ofHistory answer) [] ⟨([], []), console⟩ =
      .done ⟨([], []), console⟩ := rfl
  have hpass : runPhaseInOrder (.ofHistory answer) p .build ⟨([], []), console⟩ = _ := hbuilt
  simp only [dispatch, phaseNamed, hchecks, hchecked]
  rw [Outcome.within_andThen_of_ok rfl, Outcome.result_after, Outcome.done, hpass,
    Outcome.within_andThen_of_ok rfl]
  rfl

/-- An environment call that fails at once is what the run phase fails with, if it is the first. -/
theorem runAll_ofHistory_of_noEnv (hcomponents : p.components = c :: components)
    {past : List Invocation} (h : answer past (p.envInvocation c) = .error fault)
    (console : Console) :
    (runAll (.ofHistory answer) p ⟨(past, []), console⟩).result =
      .error (Worker.envFailure c fault) := by
  let others : List Worker := components.map ({ component := · })
  let after : List Invocation := past ++ [p.envInvocation c]
  let pending : List (Nat × Except Fault String) := [(0, .error fault)]
  let asked : RunPhase.State (List Invocation × List (Nat × Except Fault String)) :=
    ⟨⟨c, .asking⟩ :: others, ⟨(after, pending), console⟩⟩
  let ended : RunPhase.State (List Invocation × List (Nat × Except Fault String)) :=
    ⟨⟨c, .done⟩ :: others, ⟨(after, []), console⟩⟩
  have hbegins : ∃ trace, RunPhase.step? (.ofHistory answer) p (.start p ⟨(past, []), console⟩) =
      some (some ⟨0, trace, none⟩, asked) := by
    rw [RunPhase.step?, RunPhase.State.start, hcomponents]
    unfold asked pending
    rw [← h]
    exact ⟨_, rfl⟩
  have hhears : ∃ trace, RunPhase.step? (.ofHistory answer) p asked =
      some (some ⟨0, trace, some ⟨c.name, .error (Worker.envFailure c fault)⟩⟩, ended) := by
    -- The answer is heard at once, whether or not another worker waits.
    unfold asked ended others
    cases components <;> exact ⟨_, rfl⟩
  obtain ⟨_, hbegins⟩ := hbegins
  obtain ⟨_, hhears⟩ := hhears
  rw [runAll, RunPhase.record_of_some hbegins, RunPhase.record_of_some hhears]
  rfl

end

/-- **What is told of a command that fails.** For every project whose label width a labeller can be
made for, every command and any runner:

* the command fails exactly if its answers blame something, and with the failure that tells it:
  where the command stopped, from the outside in, and then a fault;
* the fault is, unchanged, the one that the runner returned for the first of the calls that failed,
  or that of a check whose output lacks the text; behind the circumstances its own text is told, and
  then those of its causes. -/
theorem dispatch_blames (r : Runner σ) (p : Project) (hwidth : p.options.labelWidth ≤ maxLabelWidth)
    (command : Option Command) (host : Host σ) :
    let o := dispatch r p command host
    let built := runPhaseInOrder r p .build (checkAll r p.descriptor.checks host).host
    (∀ failure, o.result = .error failure ↔ ∃ contexts fault,
      Blames p command (RunPhase.turns r p built.host) (Event.answers o.trace) contexts fault ∧
        failure = ⟨contexts, .fault fault⟩) ∧
    ∀ failure, o.result = .error failure → ∃ fault, failure.cause = .fault fault ∧
      failure.chain = failure.contexts ++ fault.message :: fault.causes ∧
      Traces p (Event.answers o.trace) fault := by
  intro o built
  have hreported := RunPhase.reported_turns r hwidth built.host
  have hdecides : Decides p command _ (Event.answers o.trace) o.result :=
    dispatch_decides r p command host
  refine ⟨fun failure => ⟨hdecides.blames hreported, ?_⟩, fun failure h => ?_⟩
  · rintro ⟨contexts, fault, hblames, rfl⟩
    exact hdecides.unique (hblames.decides hreported)
  · obtain ⟨contexts, fault, hblames, rfl⟩ := hdecides.blames hreported h
    exact ⟨fault, rfl, Failure.chain_of_fault contexts fault, hblames.traces hreported⟩

/-- Two files of one name, whose environment is overridden: the same call is made for both and fails
for both, and the one that was included first is blamed. -/
theorem dispatch_blames_of_twins :
    let p : Project :=
      ⟨⟨[], [⟨⟨"a/x.mk"⟩, none⟩, ⟨⟨"b/x.mk"⟩, none⟩], [⟨"x", "env"⟩], ⟨"/project/main.mk"⟩⟩,
        ⟨"make", ⟨"/bin"⟩, "DEST", 12⟩⟩
    let fault : Fault := .commandFailed "make -f /project/main.mk x/env" (some 2) "gone"
    let answer (_ : List Invocation) (inv : Invocation) : Except Fault String :=
      if inv.capture = .silent then .error fault else .ok ""
    let o := dispatch (.ofHistory answer) p none ⟨([], []), .sound⟩
    let failure : Failure := ⟨["failed to RunAll", "failed to resolve env for component 'x'",
      "failed to get env /project/a"], .fault fault⟩
    p.options.labelWidth ≤ maxLabelWidth ∧ o.result = .error failure ∧
      failure.chain = failure.contexts ++
        ["command `make -f /project/main.mk x/env` exited with status 2"] ∧
      (∃ turns, Blames p none turns (Event.answers o.trace) failure.contexts fault) ∧
      Traces p (Event.answers o.trace) fault := by
  intro p fault answer o failure
  have hwidth : p.options.labelWidth ≤ maxLabelWidth := by decide
  have hcomponents : p.components = .ofInclude ⟨⟨"a/x.mk"⟩, none⟩ ⟨"/project"⟩ ⟨"/bin"⟩ ::
      [.ofInclude ⟨⟨"b/x.mk"⟩, none⟩ ⟨"/project"⟩ ⟨"/bin"⟩] := by decide
  have hsilent : (p.envInvocation (.ofInclude ⟨⟨"a/x.mk"⟩, none⟩ ⟨"/project"⟩ ⟨"/bin"⟩)).capture =
      .silent := by decide
  have hrun : (runAll (.ofHistory answer) p
      ⟨(p.components.map (p.phaseInvocation .build), []), .sound⟩).result = .error _ :=
    runAll_ofHistory_of_noEnv hcomponents (if_pos hsilent) .sound
  have hresult : o.result = .error failure := by
    refine (result_dispatch_ofHistory rfl (fun _ _ _ => ⟨"", rfl⟩) .sound).trans ?_
    rw [hrun]
    rfl
  obtain ⟨hiff, htold⟩ := dispatch_blames (.ofHistory answer) p hwidth none ⟨([], []), .sound⟩
  obtain ⟨contexts, fault', hblames, hfailure⟩ := (hiff _).mp hresult
  obtain ⟨rfl, hfault⟩ := Failure.mk.inj hfailure
  obtain rfl := Cause.fault.inj hfault
  obtain ⟨fault', hcause, hchain, htraces⟩ := htold _ hresult
  obtain rfl := Cause.fault.inj hcause
  exact ⟨hwidth, hresult, hchain.trans (by decide), ⟨_, hblames⟩, htraces⟩

end Ensemble
