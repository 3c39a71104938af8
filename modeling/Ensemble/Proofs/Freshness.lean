import Ensemble.Proofs.RunCalls

/-!
# Ensemble.Proofs.Freshness

**How old the checks are when a phase starts.** A command runs the checks once, before all else. So
they are fresh when its first phase starts; but without a command the run phase comes behind a whole
build, and the checks are not run again in between. The main result is `fresh_checks_but_for_run`.

It is read off the trace alone, so it holds for any runner whatever, and in particular for one whose
answers depend on what has been run (`Runner.ofHistory`). The trace of a command (`Dispatched`) is
put together of passes of the checks, of a phase that takes the components one by one and of the run
phase (`Staged`). Each pass makes calls of its own kind only (`Project.IsPass`), and no call is of
two kinds, so the place where a phase starts is found in its own pass (`IsPass.front_of_starts`).
-/

namespace Ensemble

namespace Event

/-- To say that a phase begins is neither a call nor an answer. -/
@[simp] theorem calls_append_began (front : List Event) (phase : Phase) (name : String) :
    calls (front ++ [.began phase name]) = calls front :=
  (calls_append _ _).trans (List.append_nil _)

@[simp] theorem answers_append_began (front : List Event) (phase : Phase) (name : String) :
    answers (front ++ [.began phase name]) = answers front :=
  (answers_append _ _).trans (List.append_nil _)

end Event

/-! ### Calls of a phase -/

namespace Project

/-- The calls that a phase makes for components: the run phase two for each, and the others one. -/
inductive IsCall (p : Project) : Phase → Invocation → Prop
  | env {c : Component} (hc : c ∈ p.components) : IsCall p .run (p.envInvocation c)
  | run {c : Component} (hc : c ∈ p.components) (printed : String) :
    IsCall p .run (p.runInvocation c printed)
  | inOrder {phase : Phase} {c : Component} (hc : c ∈ p.components) (hphase : phase ≠ .run) :
    IsCall p phase (p.phaseInvocation phase c)

variable {p : Project} {phase phase' : Phase} {inv : Invocation}

theorem IsCall.eq_phaseInvocation (h : p.IsCall phase inv) (hphase : phase ≠ .run) :
    ∃ c ∈ p.components, inv = p.phaseInvocation phase c := by
  cases h with
  | env | run => exact absurd rfl hphase
  | inOrder hc => exact ⟨_, hc, rfl⟩

theorem IsCall.components_ne_nil (h : p.IsCall phase inv) : p.components ≠ [] := by
  cases h with
  | env hc | run hc | inOrder hc => exact List.ne_nil_of_mem hc

/-- Only the run phase shows nothing of its calls on the streams. -/
theorem IsCall.capture_eq_streams_iff (h : p.IsCall phase inv) :
    inv.capture = .streams ↔ phase ≠ .run := by
  cases h with
  | env hc =>
      unfold envInvocation
      split <;> simp
  | run hc printed => simp [runInvocation]
  | inOrder hc hphase => exact iff_of_true rfl hphase

/-- A call runs in the directory of a component, or of the root file. -/
theorem IsCall.dir_ne_none (h : p.IsCall phase inv) : inv.dir ≠ none := by
  cases h with
  | env hc =>
      unfold envInvocation
      split <;> simp
  | run hc printed => simp [runInvocation]
  | inOrder hc hphase => simp [phaseInvocation]

/-- No check is a call of a phase. -/
theorem not_isCall_check (c : Check) : ¬p.IsCall phase c.invocation :=
  fun h => h.dir_ne_none rfl

/-- A command ends as its target does. -/
theorem getLast?_command (c : Component) (tool : String) (phase : Phase) :
    (c.command tool phase.target).toList.getLast? = phase.target.toList.getLast? := by
  have hne : phase.target.toList ≠ [] := by cases phase <;> decide
  rw [Component.command, String.toList_append, List.getLast?_append_of_ne_nil _ hne]

/-- No call is one of two phases. -/
theorem IsCall.phase_eq (h : p.IsCall phase inv) (h' : p.IsCall phase' inv) : phase = phase' := by
  have hrun : phase = .run ↔ phase' = .run :=
    not_iff_not.mp (h.capture_eq_streams_iff.symm.trans h'.capture_eq_streams_iff)
  by_cases hphase : phase = .run
  · rw [hphase, hrun.mp hphase]
  · obtain ⟨c, -, rfl⟩ := h.eq_phaseInvocation hphase
    obtain ⟨c', -, hcall⟩ := h'.eq_phaseInvocation fun hphase' => hphase (hrun.mpr hphase')
    have hcommand : c.command p.options.tool phase.target =
        c'.command p.options.tool phase'.target := congrArg Invocation.command hcall
    -- Of the phases without the run phase no two have targets with the same last letter.
    have hlast := congrArg (·.toList.getLast?) hcommand
    simp only [getLast?_command] at hlast
    revert hphase hrun hlast
    cases phase <;> cases phase' <;> decide

/-! ### Where a phase starts -/

/-- In a trace a phase starts behind `front`, by the first of its calls. -/
def Starts (p : Project) (trace : List Event) (phase : Phase) (front : List Event) : Prop :=
  ∃ inv behind, trace = front ++ .started inv :: behind ∧ p.IsCall phase inv ∧
    ∀ inv' ∈ Event.calls front, ¬p.IsCall phase inv'

theorem mem_calls_append_started (front behind : List Event) (inv : Invocation) :
    inv ∈ Event.calls (front ++ .started inv :: behind) := by
  rw [Event.calls_append]
  exact List.mem_append_right _ List.mem_cons_self

theorem Starts.exists_call {trace front : List Event} (h : p.Starts trace phase front) :
    ∃ inv ∈ Event.calls trace, p.IsCall phase inv := by
  obtain ⟨inv, behind, rfl, hinv, -⟩ := h
  exact ⟨inv, mem_calls_append_started front behind inv, hinv⟩

/-- A phase does not start in a part of the trace without a call of it. -/
theorem Starts.of_append {before after front : List Event}
    (h : p.Starts (before ++ after) phase front)
    (hbefore : ∀ inv ∈ Event.calls before, ¬p.IsCall phase inv) :
    ∃ rest, front = before ++ rest ∧ p.Starts after phase rest := by
  obtain ⟨inv, behind, htrace, hinv, hfirst⟩ := h
  rcases List.append_eq_append_iff.mp htrace with ⟨rest, rfl, hafter⟩ | ⟨rest, rfl, hrest⟩
  · refine ⟨rest, rfl, inv, behind, hafter, hinv, fun inv' hinv' => hfirst inv' ?_⟩
    rw [Event.calls_append]
    exact List.mem_append_right _ hinv'
  · cases rest with
    | nil =>
        rw [List.append_nil] at hbefore
        exact ⟨[], by simp, inv, behind, hrest.symm, hinv, by simp [Event.calls]⟩
    | cons e rest =>
        obtain ⟨rfl, -⟩ := List.cons.inj hrest
        exact absurd hinv (hbefore inv (mem_calls_append_started front rest inv))

/-- A pass of a phase makes calls of this phase only, and if it does anything, it says so and makes
the first of them. -/
structure IsPass (p : Project) (phase : Phase) (trace : List Event) : Prop where
  calls : ∀ inv ∈ Event.calls trace, p.IsCall phase inv
  opens : trace = [] ∨ ∃ name inv behind, trace = .began phase name :: .started inv :: behind

theorem IsPass.not_isCall {trace : List Event} (hpass : p.IsPass phase trace)
    (hne : phase' ≠ phase) : ∀ inv ∈ Event.calls trace, ¬p.IsCall phase' inv :=
  fun inv hinv hcall => hne (hcall.phase_eq (hpass.calls inv hinv))

/-- A phase starts when its pass does. -/
theorem IsPass.front_of_starts {trace rest front : List Event} (hpass : p.IsPass phase trace)
    (hrest : ∀ inv ∈ Event.calls rest, ¬p.IsCall phase inv)
    (h : p.Starts (trace ++ rest) phase front) : ∃ name, front = [.began phase name] := by
  rcases hpass.opens with rfl | ⟨name, inv, behind, rfl⟩
  · obtain ⟨inv, hmem, hinv⟩ := h.exists_call
    exact absurd hinv (hrest inv hmem)
  · have hinv : p.IsCall phase inv := hpass.calls inv List.mem_cons_self
    obtain ⟨inv', behind', htrace, -, hfirst⟩ := h
    cases front with
    | nil => cases htrace
    | cons e front =>
        obtain ⟨rfl, hbehind⟩ := List.cons.inj htrace
        cases front with
        | nil => exact ⟨name, rfl⟩
        | cons e front =>
            obtain ⟨rfl, -⟩ := List.cons.inj hbehind
            exact absurd hinv (hfirst inv List.mem_cons_self)

theorem IsPass.front_of_starts_self {trace front : List Event} (hpass : p.IsPass phase trace)
    (h : p.Starts trace phase front) : ∃ name, front = [.began phase name] := by
  rw [← List.append_nil trace] at h
  exact hpass.front_of_starts (fun _ hinv => absurd hinv List.not_mem_nil) h

/-- A pass that does anything starts its phase, if that has not started before. -/
theorem IsPass.exists_starts {before trace : List Event} (hpass : p.IsPass phase trace)
    (hne : trace ≠ []) (hbefore : ∀ inv ∈ Event.calls before, ¬p.IsCall phase inv) :
    ∃ front, p.Starts (before ++ trace) phase front := by
  rcases hpass.opens with hnone | ⟨name, inv, behind, rfl⟩
  · exact absurd hnone hne
  · refine ⟨before ++ [.began phase name], inv, behind, by simp,
      hpass.calls inv List.mem_cons_self, ?_⟩
    rwa [Event.calls_append_began]

end Project

/-! ### Passes -/

/-- Every call that errands have made is that of an errand. -/
theorem UpToFailure.exists_errand {errands : List Errand} {answers : List Answered}
    {result : Except Failure Unit} (h : UpToFailure errands answers result) {a : Answered}
    (ha : a ∈ answers) : ∃ e ∈ errands, e.inv = a.1 := by
  induction h with
  | done => cases ha
  | goesOn hok rest ih =>
      rcases List.mem_cons.mp ha with rfl | ha
      · exact ⟨_, List.mem_cons_self, rfl⟩
      · obtain ⟨e, he, hinv⟩ := ih ha
        exact ⟨e, List.mem_cons_of_mem _ he, hinv⟩
  | stops hfails =>
      obtain rfl := List.mem_singleton.mp ha
      exact ⟨_, List.mem_cons_self, rfl⟩

theorem Outcome.Does.exists_errand {o : Outcome σ} {errands : List Errand} (h : o.Does errands)
    {inv : Invocation} (hinv : inv ∈ Event.calls o.trace) : ∃ e ∈ errands, e.inv = inv := by
  rw [h.calls_eq] at hinv
  obtain ⟨a, ha, rfl⟩ := List.mem_map.mp hinv
  exact h.upToFailure.exists_errand ha

/-- While the checks are run, no phase is. -/
theorem Outcome.Does.not_isCall {o : Outcome σ} {checks : List Check}
    (h : o.Does (checks.map Check.errand)) (p : Project) (phase : Phase) :
    ∀ inv ∈ Event.calls o.trace, ¬p.IsCall phase inv := by
  intro inv hinv
  obtain ⟨e, he, rfl⟩ := h.exists_errand hinv
  obtain ⟨c, -, rfl⟩ := List.mem_map.mp he
  exact Project.not_isCall_check c

/-- What is done first stands first in the trace. -/
theorem Outcome.prefix_andThen (o : Outcome σ) (next : Action σ) :
    o.trace <+: (o.andThen next).trace := by
  cases hresult : o.result with
  | ok =>
      rw [andThen_of_ok hresult]
      exact List.prefix_append _ _
  | error failure =>
      rewrite [andThen_of_error hresult]
      exact List.prefix_rfl

theorem runComponent_opens (r : Runner σ) (p : Project) (phase : Phase) (c : Component)
    (host : Host σ) :
    [.began phase c.name, .started (p.phaseInvocation phase c)] <+:
      (runComponent r p phase c host).trace := by
  unfold runComponent
  dsimp only
  split <;> exact ⟨_, rfl⟩

/-- A phase that takes the components one by one is a pass. -/
theorem runPhaseInOrder_isPass (r : Runner σ) (p : Project) {phase : Phase} (hphase : phase ≠ .run)
    (host : Host σ) : p.IsPass phase (runPhaseInOrder r p phase host).trace where
  calls := by
    intro inv hinv
    obtain ⟨e, he, rfl⟩ := (runInOrder_does r p phase p.components host).exists_errand hinv
    obtain ⟨c, hc, rfl⟩ := List.mem_map.mp he
    exact .inOrder hc hphase
  opens := by
    unfold runPhaseInOrder
    cases p.components with
    | nil => exact .inl rfl
    | cons c components =>
        obtain ⟨behind, hbehind⟩ := (runComponent_opens r p phase c host).trans
          (Outcome.prefix_andThen _ (runInOrder r p phase components))
        exact .inr ⟨_, _, behind, hbehind.symm⟩

namespace RunPhase

variable {r : Runner σ} {p : Project}

/-- As long as all workers wait, nothing is told; then the first begins. -/
theorem opens_record {s : State σ} (hwaiting : ∀ w ∈ s.workers, w.stage = .waiting) :
    tell false (record r p s).1 = [] ∨ ∃ name inv behind,
      tell false (record r p s).1 = .began .run name :: .started inv :: behind := by
  induction s using record_induction with
  | stops s h => exact .inl rfl
  | goes s turn? s' entries host h ih =>
      cases h with
      | begins hw => exact .inr ⟨_, _, _, rfl⟩
      | @hears heard w hnext hw =>
          -- Something is heard of a command that the worker has not started.
          have hstage := hwaiting w (List.mem_of_getElem? hw)
          obtain ⟨c, stage⟩ := w
          obtain rfl : stage = .waiting := hstage
          refine ih fun w hw' => ?_
          rcases List.mem_or_eq_of_mem_set hw' with hmem | rfl
          · exact hwaiting w hmem
          · rfl
      | passesOver hnext hnone => exact ih hwaiting

/-- All calls of the run phase belong to it. -/
theorem isCall_runAll {host : Host σ} {inv : Invocation}
    (h : inv ∈ Event.calls (runAll r p host).trace) : p.IsCall .run inv := by
  have hcalls : Event.calls (runAll r p host).trace = Event.calls (deeds (turns r p host)) :=
    calls_tell false _
  rw [hcalls] at h
  obtain ⟨i, hi, hinv⟩ := List.mem_flatMap.mp
    ((perm_filterMap_deeds Event.call? number_lt_length_components).symm.subset h)
  have hi : i < p.components.length := List.mem_range.mp hi
  obtain ⟨behind, hown, hafter⟩ := calls_share r host (List.getElem?_eq_getElem hi)
  have hc := List.getElem_mem hi
  rw [Event.calls] at hown
  rw [hown] at hinv
  rcases List.mem_cons.mp hinv with rfl | hinv
  · exact .env hc
  · rcases hafter with rfl | ⟨printed, rfl, -⟩
    · cases hinv
    · rw [List.mem_singleton.mp hinv]
      exact .run hc printed

/-- The run phase is a pass. -/
theorem runAll_isPass (r : Runner σ) (p : Project) (host : Host σ) :
    p.IsPass .run (runAll r p host).trace where
  calls := fun _ => isCall_runAll
  opens := by
    refine opens_record fun w hw => ?_
    obtain ⟨c, -, rfl⟩ := List.mem_map.mp hw
    rfl

/-- If there is a component, it is called at least for its environment. -/
theorem trace_runAll_ne_nil (r : Runner σ) (hcomponents : p.components ≠ []) (host : Host σ) :
    (runAll r p host).trace ≠ [] := by
  intro hnone
  obtain ⟨c, components, hc⟩ := List.exists_cons_of_ne_nil hcomponents
  have hfirst : p.components[0]? = some c := by rw [hc]; rfl
  have hcalled := envInvocation_mem_calls r host hfirst
  rw [hnone] at hcalled
  cases hcalled

end RunPhase

/-! ### The stages of a command -/

/-- The trace of a command, put together of the passes that it makes. -/
inductive Staged (p : Project) (command : Option Command) : List Event → Prop
  /-- A check fails. -/
  | stopped {checked : Outcome σ} (hchecks : checked.Does (p.descriptor.checks.map Check.errand)) :
    Staged p command checked.trace
  /-- The checks pass, and a phase takes the components one by one. -/
  | passes {checked : Outcome σ} {phase : Phase} {made : List Event}
    (hchecks : checked.Does (p.descriptor.checks.map Check.errand))
    (hchecked : checked.result = .ok ()) (hphase : phase ≠ .run) (hmade : p.IsPass phase made) :
    Staged p command (checked.trace ++ made)
  /-- The checks pass, everything is built, and then everything is run. -/
  | runs {checked built : Outcome σ} {ran : List Event} (hcommand : command = none)
    (hchecks : checked.Does (p.descriptor.checks.map Check.errand))
    (hchecked : checked.result = .ok ())
    (hbuild : built.Does (p.components.map (p.errand .build))) (hbuilt : built.result = .ok ())
    (hmade : p.IsPass .build built.trace) (hran : p.IsPass .run ran) :
    Staged p command (checked.trace ++ (built.trace ++ ran))

/-- If the checks pass and everything is built, everything is run. -/
theorem trace_dispatch_of_built {r : Runner σ} {p : Project} {host : Host σ}
    (hchecked : (checkAll r p.descriptor.checks host).result = .ok ())
    (hbuilt : (runPhaseInOrder r p .build (checkAll r p.descriptor.checks host).host).result =
      .ok ()) :
    let checked := checkAll r p.descriptor.checks host
    let built := runPhaseInOrder r p .build checked.host
    (dispatch r p none host).trace =
      checked.trace ++ (built.trace ++ (runAll r p built.host).trace) := by
  intro checked built
  rw [dispatch, Outcome.within_andThen_of_ok hchecked, Outcome.trace_after, phaseNamed,
    Outcome.within_andThen_of_ok hbuilt]
  rfl

/-- The run phase is no phase that takes the components one by one. -/
theorem phase_ne_run (command : Option Command) : (phaseOf command).1 ≠ .run := by
  rcases command with _ | _ | _ | _ <;> decide

theorem dispatch_staged (r : Runner σ) (p : Project) (command : Option Command) (host : Host σ) :
    Staged p command (dispatch r p command host).trace := by
  have hdispatched := dispatch_dispatched r p command host
  generalize dispatch r p command host = o at hdispatched ⊢
  have hchecks := checkAll_does r p.descriptor.checks host
  have hphase : (phaseOf command).1 ≠ .run := phase_ne_run command
  cases hdispatched with
  | @stopped checked failure hchecked hfails =>
      have hstopped : Staged p command checked.trace := .stopped (hchecked ▸ hchecks)
      exact hstopped
  | failed hchecked hpassed hmade hfails =>
      exact .passes (hchecked ▸ hchecks) hpassed hphase
        (hmade ▸ runPhaseInOrder_isPass r p hphase _)
  | done hcommand hchecked hpassed hmade hsucceeds =>
      exact .passes (hchecked ▸ hchecks) hpassed hphase
        (hmade ▸ runPhaseInOrder_isPass r p hphase _)
  | ran hcommand hchecked hpassed hmade hsucceeds hran =>
      exact .runs hcommand (hchecked ▸ hchecks) hpassed (hmade ▸ runPhaseInOrder_does r p .build _)
        hsucceeds (hmade ▸ runPhaseInOrder_isPass r p (by decide) _)
        (hran ▸ RunPhase.runAll_isPass r p _)

/-! ### Fresh checks -/

/-- At the end of this part of a trace all checks have been run and have passed, and nothing has
been called or answered since. -/
def FreshlyChecked (checks : List Check) (front : List Event) : Prop :=
  ∃ earlier recent, front = earlier ++ recent ∧
    Event.calls recent = checks.map Check.invocation ∧
    UpToFailure (checks.map Check.errand) (Event.answers recent) (.ok ())

/-- Checks that have passed are fresh as long as nothing else is called or answered. -/
theorem Outcome.Does.freshlyChecked {o : Outcome σ} {checks : List Check}
    (h : o.Does (checks.map Check.errand)) (hpassed : o.result = .ok ()) {rest : List Event}
    (hcalls : Event.calls rest = []) (hanswers : Event.answers rest = []) :
    FreshlyChecked checks (o.trace ++ rest) := by
  obtain ⟨hall, -, -⟩ := h.upToFailure.checks_of_ok hpassed
  refine ⟨[], o.trace ++ rest, rfl, ?_, ?_⟩
  · rw [Event.calls_append, hcalls, List.append_nil, h.calls_eq, hall]
  · rw [Event.answers_append, hanswers, List.append_nil, ← hpassed]
    exact h.upToFailure

/-- Where checks are fresh, the last that was answered is one of them. -/
theorem FreshlyChecked.getLast?_answers {checks : List Check} {front : List Event}
    (h : FreshlyChecked checks front) (hne : checks ≠ []) :
    ∃ a c, (Event.answers front).getLast? = some a ∧ a.1 = Check.invocation c := by
  obtain ⟨earlier, recent, rfl, -, hpassed⟩ := h
  obtain ⟨hall, -, -⟩ := hpassed.checks_of_ok rfl
  have hanswered : Event.answers recent ≠ [] := by
    intro hnone
    rw [hnone] at hall
    exact hne (List.map_eq_nil_iff.mp hall.symm)
  have hlast := List.getLast_mem hanswered
  obtain ⟨c, -, hc⟩ := List.mem_map.mp (hall ▸ List.mem_map_of_mem (f := Prod.fst) hlast)
  refine ⟨_, c, ?_, hc.symm⟩
  rw [Event.answers_append, List.getLast?_append_of_ne_nil _ hanswered,
    List.getLast?_eq_getLast_of_ne_nil hanswered]

/-- Behind components that have been built, no check is fresh. -/
theorem Outcome.Does.not_freshlyChecked {o : Outcome σ} {p : Project}
    (h : o.Does (p.components.map (p.errand .build))) (hbuilt : o.result = .ok ())
    (hcomponents : p.components ≠ []) {checks : List Check} (hchecks : checks ≠ [])
    {before rest : List Event} (hanswers : Event.answers rest = []) :
    ¬FreshlyChecked checks (before ++ (o.trace ++ rest)) := by
  intro hfresh
  obtain ⟨a, c, hlast, hcheck⟩ := hfresh.getLast?_answers hchecks
  obtain ⟨hall, -⟩ := h.upToFailure.components_of_ok hbuilt
  have hanswered : Event.answers o.trace ≠ [] := by
    intro hnone
    rw [hnone] at hall
    exact hcomponents (List.map_eq_nil_iff.mp hall.symm)
  rw [Event.answers_append, Event.answers_append, hanswers, List.append_nil,
    List.getLast?_append_of_ne_nil _ hanswered] at hlast
  obtain ⟨c', -, hc'⟩ := List.mem_map.mp
    (hall ▸ List.mem_map_of_mem (f := Prod.fst) (List.mem_of_getLast? hlast))
  -- A component is built in its directory, and a check is run in none.
  have hdir := congrArg Invocation.dir (hc'.trans hcheck)
  cases hdir

namespace Staged

variable {p : Project} {command : Option Command} {trace front : List Event} {phase : Phase}

/-- A phase that takes the components one by one starts right behind the checks. -/
theorem freshlyChecked (h : Staged p command trace) (hstarts : p.Starts trace phase front)
    (hphase : phase ≠ .run) : FreshlyChecked p.descriptor.checks front := by
  cases h with
  | stopped hchecks =>
      obtain ⟨inv, hinv, hcall⟩ := hstarts.exists_call
      exact absurd hcall (hchecks.not_isCall p phase inv hinv)
  | @passes _ checked phase' made hchecks hchecked hphase' hmade =>
      obtain ⟨rest, rfl, hbehind⟩ := hstarts.of_append (hchecks.not_isCall p phase)
      obtain ⟨inv, hinv, hcall⟩ := hbehind.exists_call
      obtain rfl := hcall.phase_eq (hmade.calls inv hinv)
      obtain ⟨name, rfl⟩ := hmade.front_of_starts_self hbehind
      exact hchecks.freshlyChecked hchecked rfl rfl
  | @runs _ checked built ran hcommand hchecks hchecked hbuild hbuilt hmade hran =>
      obtain ⟨rest, rfl, hbehind⟩ := hstarts.of_append (hchecks.not_isCall p phase)
      by_cases hphase' : phase = .build
      · subst hphase'
        obtain ⟨name, rfl⟩ := hmade.front_of_starts (hran.not_isCall hphase) hbehind
        exact hchecks.freshlyChecked hchecked rfl rfl
      · -- There are no calls of another phase.
        obtain ⟨_, -, hlast⟩ := hbehind.of_append (hmade.not_isCall hphase')
        obtain ⟨inv, hinv, hcall⟩ := hlast.exists_call
        exact absurd hcall (hran.not_isCall hphase inv hinv)

/-- The run phase starts behind the checks and a build. -/
theorem behind_build (h : Staged p command trace) (hstarts : p.Starts trace .run front) :
    command = none ∧ ∃ (σ : Type) (checked built : Outcome σ) (name : String),
      front = checked.trace ++ (built.trace ++ [.began .run name]) ∧
      checked.Does (p.descriptor.checks.map Check.errand) ∧ checked.result = .ok () ∧
      built.Does (p.components.map (p.errand .build)) ∧ built.result = .ok () := by
  cases h with
  | stopped hchecks =>
      obtain ⟨inv, hinv, hcall⟩ := hstarts.exists_call
      exact absurd hcall (hchecks.not_isCall p .run inv hinv)
  | passes hchecks hchecked hphase hmade =>
      obtain ⟨_, -, hbehind⟩ := hstarts.of_append (hchecks.not_isCall p .run)
      obtain ⟨inv, hinv, hcall⟩ := hbehind.exists_call
      exact absurd hcall (hmade.not_isCall hphase.symm inv hinv)
  | @runs σ checked built ran hcommand hchecks hchecked hbuild hbuilt hmade hran =>
      obtain ⟨_, rfl, hbehind⟩ := hstarts.of_append (hchecks.not_isCall p .run)
      obtain ⟨_, rfl, hlast⟩ := hbehind.of_append (hmade.not_isCall (by decide))
      obtain ⟨name, rfl⟩ := hran.front_of_starts_self hlast
      exact ⟨hcommand, σ, checked, built, name, rfl, hchecks, hchecked, hbuild, hbuilt⟩

/-- When the run phase starts, the checks and the build calls have been made, and nothing else. -/
theorem calls_front (h : Staged p command trace) (hstarts : p.Starts trace .run front) :
    Event.calls front = p.descriptor.checks.map Check.invocation ++
      p.components.map (p.phaseInvocation .build) := by
  obtain ⟨-, σ, checked, built, name, rfl, hchecks, hchecked, hbuild, hbuilt⟩ :=
    h.behind_build hstarts
  obtain ⟨hall, -, -⟩ := hchecks.upToFailure.checks_of_ok hchecked
  obtain ⟨hmade, -⟩ := hbuild.upToFailure.components_of_ok hbuilt
  rw [Event.calls_append, Event.calls_append_began, hchecks.calls_eq, hall, hbuild.calls_eq, hmade]

/-- When the run phase starts, no check is fresh. -/
theorem not_freshlyChecked (h : Staged p command trace) (hstarts : p.Starts trace .run front)
    (hchecks : p.descriptor.checks ≠ []) : ¬FreshlyChecked p.descriptor.checks front := by
  obtain ⟨-, σ, checked, built, name, rfl, -, -, hbuild, hbuilt⟩ := h.behind_build hstarts
  obtain ⟨inv, -, hcall⟩ := hstarts.exists_call
  exact hbuild.not_freshlyChecked hbuilt hcall.components_ne_nil hchecks rfl

end Staged

/-- Behind checks that pass and a build that succeeds, the run phase starts. -/
theorem Project.starts_run {r : Runner σ} {p : Project} {host : Host σ}
    (hcomponents : p.components ≠ [])
    (hchecked : (checkAll r p.descriptor.checks host).result = .ok ())
    (hbuilt : (runPhaseInOrder r p .build (checkAll r p.descriptor.checks host).host).result =
      .ok ()) : ∃ front, p.Starts (dispatch r p none host).trace .run front := by
  rw [trace_dispatch_of_built hchecked hbuilt, ← List.append_assoc]
  refine (RunPhase.runAll_isPass r p _).exists_starts
    (RunPhase.trace_runAll_ne_nil r hcomponents _) fun inv hinv => ?_
  rw [Event.calls_append] at hinv
  rcases List.mem_append.mp hinv with hinv | hinv
  · exact (checkAll_does r p.descriptor.checks host).not_isCall p .run inv hinv
  · exact (runPhaseInOrder_isPass r p (by decide) _).not_isCall (by decide) inv hinv

/-- Where there are no checks, they are always fresh. -/
theorem freshlyChecked_nil (front : List Event) : FreshlyChecked [] front :=
  ⟨front, [], (List.append_nil front).symm, rfl, .done⟩

/-! ### Answers that depend on what has been run -/

namespace Runner

/-- A runner that answers each command at once, by what has been run before. Its world is what has
been run and the answers that are still to be heard. -/
def ofHistory (answer : List Invocation → Invocation → Except Fault String) :
    Runner (List Invocation × List (Nat × Except Fault String)) where
  start number inv world := (world.1 ++ [inv], world.2 ++ [(number, answer world.1 inv)])
  next? world :=
    match world.2 with
    | [] => none
    | (number, result) :: behind => some ⟨number, .ended result, true, (world.1, behind)⟩
  size world := world.2.length
  size_next := by
    rintro ⟨past, _ | ⟨⟨number, result⟩, behind⟩⟩ heard h <;> cases h
    exact Nat.lt_succ_self _
  failsOnRefusal := true

variable {answer : List Invocation → Invocation → Except Fault String}

theorem execute_ofHistory (past : List Invocation) (inv : Invocation) :
    (ofHistory answer).execute inv (past, []) = (answer past inv, [], (past ++ [inv], [])) := by
  rw [execute, listen]
  rfl

theorem perform_ofHistory (past : List Invocation) (inv : Invocation) (console : Console) :
    (ofHistory answer).perform inv ⟨(past, []), console⟩ =
      (answer past inv, [.started inv, .completed inv.command, .answered inv (answer past inv)],
        ⟨(past ++ [inv], []), console⟩) := by
  cases hcapture : inv.capture <;> simp [perform, execute_ofHistory, shown, hcapture]

end Runner

section

variable {answer : List Invocation → Invocation → Except Fault String} {p : Project}

theorem checkAll_ofHistory {c : Check} {past : List Invocation}
    (h : c.verdict (answer past c.invocation) = .ok ()) (console : Console) :
    checkAll (.ofHistory answer) [c] ⟨(past, []), console⟩ =
      ⟨.ok (), [.started c.invocation, .completed c.command,
        .answered c.invocation (answer past c.invocation), .checksPassed 1],
        ⟨(past ++ [c.invocation], []), console⟩⟩ := by
  simp only [checkAll, runChecks, Runner.perform_ofHistory, h]
  rfl

theorem runInOrder_ofHistory {phase : Phase} {components : List Component}
    (h : ∀ past, ∀ c ∈ components, ∃ output, answer past (p.phaseInvocation phase c) = .ok output)
    (past : List Invocation) (console : Console) :
    ∃ trace, runInOrder (.ofHistory answer) p phase components ⟨(past, []), console⟩ =
      ⟨.ok (), trace, ⟨(past ++ components.map (p.phaseInvocation phase), []), console⟩⟩ := by
  induction components generalizing past with
  | nil =>
      rw [List.map_nil, List.append_nil]
      exact ⟨[], rfl⟩
  | cons c components ih =>
      obtain ⟨output, houtput⟩ := h past c List.mem_cons_self
      obtain ⟨trace, hrest⟩ := ih (fun past c hc => h past c (List.mem_cons_of_mem _ hc))
        (past ++ [p.phaseInvocation phase c])
      rw [runInOrder, runComponent]
      simp only [Runner.perform_ofHistory, houtput]
      rw [Outcome.andThen_of_ok rfl, hrest, List.append_assoc]
      exact ⟨_, rfl⟩

/-- With a check that passes at first, and builds that always succeed, the run phase starts. -/
theorem Project.starts_run_ofHistory {check : Check} (hchecks : p.descriptor.checks = [check])
    (hcomponents : p.components ≠ [])
    (hverdict : check.verdict (answer [] check.invocation) = .ok ())
    (hbuilds : ∀ past, ∀ c ∈ p.components,
      ∃ output, answer past (p.phaseInvocation .build c) = .ok output) (console : Console) :
    ∃ front,
      p.Starts (dispatch (.ofHistory answer) p none ⟨([], []), console⟩).trace .run front := by
  have hchecked := checkAll_ofHistory hverdict console
  rw [← hchecks] at hchecked
  refine starts_run hcomponents (by rw [hchecked]) ?_
  obtain ⟨trace, hbuilt⟩ := runInOrder_ofHistory hbuilds [check.invocation] console
  rw [hchecked]
  exact congrArg Outcome.result hbuilt

end

/-- **When checks are fresh.** For every project, every command and every runner, whose answers may
depend on anything: all checks have been run and have passed right before a phase starts, unless it
is the run phase and there are checks. The run phase starts only without a command, behind checks
that have passed and a build that has succeeded, and no check is run in between. -/
theorem fresh_checks_but_for_run (r : Runner σ) (p : Project) (command : Option Command)
    (host : Host σ) {phase : Phase} {front : List Event}
    (h : p.Starts (dispatch r p command host).trace phase front) :
    (FreshlyChecked p.descriptor.checks front ↔ phase ≠ .run ∨ p.descriptor.checks = []) ∧
      (phase = .run → command = none ∧ ∃ checked built, front = checked ++ built ∧
        FreshlyChecked p.descriptor.checks checked ∧
        Event.calls built = p.components.map (p.phaseInvocation .build) ∧
        (Event.answers built).map (·.1) = Event.calls built ∧
        Succeeded (Event.answers built)) := by
  have hstaged := dispatch_staged r p command host
  refine ⟨⟨fun hfresh => ?_, ?_⟩, ?_⟩
  · by_contra hstale
    obtain ⟨hphase, hchecks⟩ := not_or.mp hstale
    rw [not_ne_iff] at hphase
    subst hphase
    exact hstaged.not_freshlyChecked h hchecks hfresh
  · rintro (hphase | hnone)
    · exact hstaged.freshlyChecked h hphase
    · rw [hnone]
      exact freshlyChecked_nil front
  · rintro rfl
    obtain ⟨hcommand, σ, checked, built, name, rfl, hchecks, hchecked, hbuild, hbuilt⟩ :=
      hstaged.behind_build h
    obtain ⟨hall, hsucceeded⟩ := hbuild.upToFailure.components_of_ok hbuilt
    refine ⟨hcommand, checked.trace, built.trace ++ [.began .run name], rfl, ?_, ?_, ?_, ?_⟩
    · rw [← List.append_nil checked.trace]
      exact hchecks.freshlyChecked hchecked rfl rfl
    · rw [Event.calls_append_began, hbuild.calls_eq, hall]
    · rw [Event.calls_append_began, Event.answers_append_began, hbuild.calls_eq]
    · rwa [Event.answers_append_began]

/-- A check, two components and a runner that prints the same whatever it is asked: the run phase
starts behind both builds. -/
theorem fresh_checks_but_for_run_of_two :
    let check : Check := ⟨"tool --version", "4."⟩
    let p : Project :=
      ⟨⟨[check], [⟨⟨"a/a.mk"⟩, none⟩, ⟨⟨"b/b.mk"⟩, none⟩], [], ⟨"/project/main.mk"⟩⟩,
        ⟨"make", ⟨"/bin"⟩, "DEST", 12⟩⟩
    let answer (_ : List Invocation) (_ : Invocation) : Except Fault String := .ok "tool 4.3"
    let trace := (dispatch (.ofHistory answer) p none ⟨([], []), .sound⟩).trace
    ∃ front, p.Starts trace .run front ∧ ¬FreshlyChecked p.descriptor.checks front ∧
      ∃ checked built, front = checked ++ built ∧ FreshlyChecked p.descriptor.checks checked ∧
        Event.calls built = p.components.map (p.phaseInvocation .build) := by
  intro check p answer trace
  have hverdict : check.verdict (answer [] check.invocation) = .ok () := by decide
  obtain ⟨front, hstarts⟩ := Project.starts_run_ofHistory (p := p) rfl nofun hverdict
    (fun _ _ _ => ⟨_, rfl⟩) .sound
  obtain ⟨hfresh, hrun⟩ := fresh_checks_but_for_run (.ofHistory answer) p none _ hstarts
  obtain ⟨-, checked, built, hfront, hchecked, hcalls, -, -⟩ := hrun rfl
  refine ⟨front, hstarts, fun h => ?_, checked, built, hfront, hchecked, hcalls⟩
  rcases hfresh.mp h with hphase | hnone
  · exact hphase rfl
  · cases hnone

/-- A tool that is replaced when a component is built: the check passes before, and would fail when
the run phase starts. -/
theorem stale_check_before_run :
    let check : Check := ⟨"tool --version", "4."⟩
    let p : Project :=
      ⟨⟨[check], [⟨⟨"a/a.mk"⟩, none⟩], [], ⟨"/project/main.mk"⟩⟩, ⟨"make", ⟨"/bin"⟩, "DEST", 12⟩⟩
    let answer (past : List Invocation) (inv : Invocation) : Except Fault String :=
      .ok (if inv = check.invocation then if past = [] then "tool 4.3" else "tool 5.0" else "")
    let trace := (dispatch (.ofHistory answer) p none ⟨([], []), .sound⟩).trace
    ∃ front, p.Starts trace .run front ∧ ¬FreshlyChecked p.descriptor.checks front ∧
      check.verdict (answer (Event.calls front) check.invocation) ≠ .ok () := by
  intro check p answer trace
  have hverdict : check.verdict (answer [] check.invocation) = .ok () := by decide
  obtain ⟨front, hstarts⟩ := Project.starts_run_ofHistory (p := p) rfl nofun hverdict
    (fun _ _ _ => ⟨_, rfl⟩) .sound
  have hstaged := dispatch_staged (.ofHistory answer) p none ⟨([], []), .sound⟩
  refine ⟨front, hstarts, hstaged.not_freshlyChecked hstarts nofun, ?_⟩
  rw [hstaged.calls_front hstarts]
  decide

end Ensemble
