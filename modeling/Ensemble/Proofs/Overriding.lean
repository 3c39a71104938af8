import Mathlib.Logic.Relation
import Ensemble.Dispatch
import Ensemble.Proofs.RunCalls

/-!
# Ensemble.Proofs.Overriding

**What overrides and labels are for.** An override for the environment target of an included
component redirects that component's environment call to the root file. Nothing else in a project
depends on the overrides, and nothing at all on the labels. The main result,
`outcome_eq_of_edits`, compares two projects whose descriptors differ by edits of the other kind
(`Descriptor.Edit`): every phase and every command has the same outcome on both, with any runner
whatever, and the environment calls of both are those that the overrides say.

Edited descriptors `Agree`: they name the same files and redirect the same environment calls. So
their components are the same but for the labels, and make the same calls (`Matches`). For the run
phase this is carried from state to state: two states whose workers match do the same in a step and
match after it (`RunPhase.step?_matches`).
-/

namespace Ensemble

/-! ### Edits -/

namespace Descriptor

/-- An override that redirects no environment call: it is of another target, or of no component that
is included. -/
def Idle (d : Descriptor) (o : Override) : Prop :=
  o.target ≠ envTarget ∨ o.component ∉ d.includes.map Include.componentName

/-- A change to the overrides that redirect nothing, to the order or the number of the others, or to
labels. -/
inductive Edit (d : Descriptor) : Descriptor → Prop
  | deletes {before after : List Override} {o : Override}
    (hd : d.overrides = before ++ o :: after) (ho : d.Idle o) :
    Edit d { d with overrides := before ++ after }
  | adds {before after : List Override} {o : Override} (hd : d.overrides = before ++ after)
    (ho : d.Idle o) : Edit d { d with overrides := before ++ o :: after }
  | repeats {before after : List Override} {o : Override} (hd : d.overrides = before ++ after)
    (ho : o ∈ d.overrides) : Edit d { d with overrides := before ++ o :: after }
  | permutes {overrides : List Override} (h : overrides.Perm d.overrides) :
    Edit d { d with overrides }
  | relabels {includes : List Include} (h : includes.map (·.path) = d.includes.map (·.path)) :
    Edit d { d with includes }

/-- Two descriptors with the same checks and files, by which the same environment calls are
redirected. -/
structure Agree (d d' : Descriptor) : Prop where
  checks_eq : d'.checks = d.checks
  fullPath_eq : d'.fullPath = d.fullPath
  paths_eq : d'.includes.map (·.path) = d.includes.map (·.path)
  override_iff : ∀ name ∈ d.includes.map Include.componentName,
    (⟨name, envTarget⟩ ∈ d'.overrides ↔ ⟨name, envTarget⟩ ∈ d.overrides)

/-- A component is named by its path alone. -/
theorem names_eq {includes includes' : List Include}
    (h : includes'.map (·.path) = includes.map (·.path)) :
    includes'.map Include.componentName = includes.map Include.componentName := by
  have hname : Include.componentName = (fun path : Path => path.fileStem.getD "") ∘ (·.path) := rfl
  rw [hname, ← List.map_map, h, List.map_map]

/-- An override that redirects nothing is not the one of an included component. -/
theorem Idle.ne {d : Descriptor} {o : Override} (h : d.Idle o) {name : String}
    (hname : name ∈ d.includes.map Include.componentName) : ⟨name, envTarget⟩ ≠ o := by
  rintro rfl
  rcases h with h | h
  · exact h rfl
  · exact h hname

namespace Agree

variable {d d' d'' : Descriptor}

theorem refl (d : Descriptor) : Agree d d :=
  ⟨rfl, rfl, rfl, fun _ _ => .rfl⟩

theorem trans (h : Agree d d') (h' : Agree d' d'') : Agree d d'' where
  checks_eq := h'.checks_eq.trans h.checks_eq
  fullPath_eq := h'.fullPath_eq.trans h.fullPath_eq
  paths_eq := h'.paths_eq.trans h.paths_eq
  override_iff := fun name hname =>
    (h'.override_iff name (names_eq h.paths_eq ▸ hname)).trans (h.override_iff name hname)

/-- Only the overrides have changed, and not what they redirect. -/
theorem of_overrides {overrides : List Override}
    (h : ∀ name ∈ d.includes.map Include.componentName,
      (⟨name, envTarget⟩ ∈ overrides ↔ ⟨name, envTarget⟩ ∈ d.overrides)) :
    Agree d { d with overrides } :=
  ⟨rfl, rfl, rfl, h⟩

theorem of_edit (h : Edit d d') : Agree d d' := by
  cases h with
  | deletes hd ho =>
      refine of_overrides fun name hname => ?_
      simp [hd, ho.ne hname]
  | adds hd ho =>
      refine of_overrides fun name hname => ?_
      simp [hd, ho.ne hname]
  | repeats hd ho =>
      refine of_overrides fun name _ => ?_
      rw [hd] at ho ⊢
      simp only [List.mem_append, List.mem_cons] at ho ⊢
      constructor
      · rintro (h | rfl | h)
        · exact .inl h
        · exact ho
        · exact .inr h
      · exact fun h => h.imp_right .inr
  | permutes h => exact of_overrides fun name _ => h.mem_iff
  | relabels h => exact ⟨rfl, rfl, h, fun _ _ => .rfl⟩

theorem of_edits (h : Relation.ReflTransGen Edit d d') : Agree d d' := by
  induction h with
  | refl => exact refl d
  | tail _ hedit ih => exact ih.trans (of_edit hedit)

end Agree

end Descriptor

/-! ### Components that match -/

/-- Two components of projects with the same options that are the same but for the label, and whose
environment calls are the same. -/
structure Matches (p p' : Project) (c c' : Component) : Prop where
  options_eq : p'.options = p.options
  eq_relabelled : ∃ label, c' = { c with label }
  envInvocation_eq : p'.envInvocation c' = p.envInvocation c

namespace Descriptor.Agree

variable {d d' : Descriptor} (h : Agree d d') (options : Options)

include h

theorem baseDir_eq : d'.baseDir = d.baseDir :=
  congrArg Path.directory h.fullPath_eq

theorem envInvocation_eq {c : Component} (hname : c.name ∈ d.includes.map Include.componentName)
    (label : Option String) :
    Project.envInvocation ⟨d', options⟩ { c with label } = Project.envInvocation ⟨d, options⟩ c := by
  have hoverride : d'.hasOverride c.name envTarget = d.hasOverride c.name envTarget := by
    rw [Bool.eq_iff_iff, hasOverride, hasOverride, List.contains_iff_mem, List.contains_iff_mem]
    exact h.override_iff c.name hname
  simp only [Project.envInvocation, hoverride, h.fullPath_eq, h.baseDir_eq]
  rfl

/-- Components of includes with the same paths match, one by one. -/
theorem matches_components :
    List.Forall₂ (Matches ⟨d, options⟩ ⟨d', options⟩) (Project.components ⟨d, options⟩)
      (Project.components ⟨d', options⟩) := by
  have hpaths : List.Forall₂ Eq (d.includes.map (·.path)) (d'.includes.map (·.path)) :=
    List.forall₂_eq_eq_eq ▸ h.paths_eq.symm
  rw [List.forall₂_map_left_iff, List.forall₂_map_right_iff] at hpaths
  have hincluded := (List.forall₂_and_left _ _).mpr ⟨fun _ hi => hi, hpaths⟩
  rw [Project.components, Project.components, List.forall₂_map_left_iff, List.forall₂_map_right_iff]
  refine hincluded.imp fun i i' h' => ?_
  obtain ⟨hi, hpath⟩ : i ∈ d.includes ∧ i.path = i'.path := h'
  have heq : Component.ofInclude i' d'.baseDir options.binRoot =
      { Component.ofInclude i d.baseDir options.binRoot with label := i'.label } := by
    simp only [Component.ofInclude, Include.resolve, Include.componentName, hpath, h.baseDir_eq]
  refine ⟨rfl, ⟨i'.label, heq⟩, ?_⟩
  dsimp only
  rw [heq]
  exact h.envInvocation_eq options (List.mem_map_of_mem hi) i'.label

end Descriptor.Agree

/-! ### What components do that match -/

section

variable {p p' : Project} {c c' : Component} (h : Matches p p' c c')

include h

theorem Matches.askEnv_eq (r : Runner σ) (number : Nat) (host : Host σ) :
    Worker.askEnv r p' number c' host = Worker.askEnv r p number c host := by
  obtain ⟨-, ⟨label, rfl⟩, henv⟩ := h
  simp only [Worker.askEnv, henv]

theorem Matches.runInvocation_eq (printed : String) :
    p'.runInvocation c' printed = p.runInvocation c printed := by
  obtain ⟨hoptions, ⟨label, rfl⟩, -⟩ := h
  simp only [Project.runInvocation, Project.runBindings, Project.destBinding, hoptions]
  rfl

/-- A worker takes no notice of labels, and of the overrides only as far as its environment call
goes by them. -/
theorem Matches.hear_eq (r : Runner σ) (number : Nat)
    (stage : Stage) (news : News) (host : Host σ) :
    Worker.hear r p' number ⟨c', stage⟩ news host = Worker.hear r p number ⟨c, stage⟩ news host := by
  have hrun := h.runInvocation_eq
  obtain ⟨hoptions, ⟨label, rfl⟩, henv⟩ := h
  cases stage with
  | asking =>
      cases news with
      | chunk chunk => rfl
      | ended answer =>
          simp only [Worker.hear, Worker.startRun, henv, hrun, hoptions]
          cases answer <;> rfl
  | running inv l => cases news <;> rfl
  | waiting => rfl
  | done => rfl

/-- One component's part of a phase is the same. -/
theorem Matches.runComponent_eq (r : Runner σ) (phase : Phase) :
    runComponent r p' phase c' = runComponent r p phase c := by
  obtain ⟨hoptions, ⟨label, rfl⟩, -⟩ := h
  have hcall : p'.phaseInvocation phase { c with label } = p.phaseInvocation phase c := by
    simp only [Project.phaseInvocation, Project.destBinding, hoptions]
    rfl
  funext host
  simp only [runComponent, hcall]
  rfl

end

/-! ### The run phase -/

namespace RunPhase

variable {r : Runner σ} {p p' : Project}

/-- Two lists of workers that match one by one and have come equally far. -/
def WorkersMatch (p p' : Project) : List Worker → List Worker → Prop :=
  List.Forall₂ fun w w' => w'.stage = w.stage ∧ Matches p p' w.component w'.component

namespace WorkersMatch

variable {workers workers' : List Worker} (h : WorkersMatch p p' workers workers')

include h

theorem findIdx?_eq : workers'.findIdx? Worker.isWaiting = workers.findIdx? Worker.isWaiting := by
  induction h with
  | nil => rfl
  | @cons w w' workers workers' hw h ih =>
      have hwaits : w'.isWaiting = w.isWaiting := by
        unfold Worker.isWaiting
        rw [hw.1]
      rw [List.findIdx?_cons, List.findIdx?_cons, hwaits, ih]

theorem next_eq (world : σ) : next r workers' world = next r workers world := by
  unfold next
  rw [h.findIdx?_eq]

/-- Under each number there is a worker in both, or in neither. -/
theorem getElem?_cases (number : Nat) :
    (workers[number]? = none ∧ workers'[number]? = none) ∨
      ∃ c c' stage, workers[number]? = some ⟨c, stage⟩ ∧ workers'[number]? = some ⟨c', stage⟩ ∧
        Matches p p' c c' := by
  induction h generalizing number with
  | nil => exact .inl ⟨rfl, rfl⟩
  | @cons w w' workers workers' hw h ih =>
      cases number with
      | zero =>
          obtain ⟨c, stage⟩ := w
          obtain ⟨c', stage'⟩ := w'
          obtain rfl : stage' = stage := hw.1
          exact .inr ⟨c, c', stage', rfl, rfl, hw.2⟩
      | succ number => exact ih number

theorem set {c c' : Component} (hc : Matches p p' c c') (number : Nat) (stage : Stage) :
    WorkersMatch p p' (workers.set number ⟨c, stage⟩) (workers'.set number ⟨c', stage⟩) := by
  induction h generalizing number with
  | nil => exact .nil
  | cons hw h ih =>
      cases number with
      | zero => exact .cons ⟨rfl, hc⟩ h
      | succ number => exact .cons hw (ih number)

end WorkersMatch

/-- What happens next in two states that match is the same, and the states after it match. -/
theorem step?_matches {s : State σ} {workers' : List Worker}
    (h : WorkersMatch p p' s.workers workers') :
    (step? r p s = none ∧ step? r p' ⟨workers', s.host⟩ = none) ∨
      ∃ turn? t workers'', step? r p s = some (turn?, t) ∧
        step? r p' ⟨workers', s.host⟩ = some (turn?, ⟨workers'', t.host⟩) ∧
        WorkersMatch p p' t.workers workers'' := by
  unfold step?
  rw [h.next_eq]
  cases next r s.workers s.host.world with
  | «over» => exact .inl ⟨rfl, rfl⟩
  | begins number =>
      rcases h.getElem?_cases number with ⟨hw, hw'⟩ | ⟨c, c', stage, hw, hw', hc⟩
      · exact .inl ⟨by simp [hw], by simp [hw']⟩
      · simp only [hw, hw', Option.map_some, hc.askEnv_eq]
        exact .inr ⟨_, _, _, rfl, rfl, h.set hc number _⟩
  | hears heard =>
      dsimp only
      rcases h.getElem?_cases heard.number with ⟨hw, hw'⟩ | ⟨c, c', stage, hw, hw', hc⟩
      · simp only [hw, hw']
        exact .inr ⟨_, _, _, rfl, rfl, h⟩
      · simp only [hw, hw', hc.hear_eq]
        exact .inr ⟨_, _, _, rfl, rfl, h.set hc heard.number _⟩

/-- **The record goes by what matches.** -/
theorem record_matches {s : State σ} {workers' : List Worker}
    (h : WorkersMatch p p' s.workers workers') :
    record r p' ⟨workers', s.host⟩ = record r p s := by
  induction s using record.induct r p generalizing workers' with
  | case1 s hnone =>
      rcases step?_matches (r := r) h with ⟨-, hnone'⟩ | ⟨_, _, _, hsome, -, -⟩
      · rw [record_of_none hnone, record_of_none hnone']
      · rw [hnone] at hsome
        cases hsome
  | case2 s turn? s' hsome _ _ _ ih =>
      rcases step?_matches (r := r) h with ⟨hnone, -⟩ | ⟨_, _, _, hsome', hstep, hmatch⟩
      · rw [hsome] at hnone
        cases hnone
      · cases hsome.symm.trans hsome'
        rw [record_of_some hsome, record_of_some hstep, ih hmatch]

end RunPhase

/-! ### Phases and commands -/

/-- Components that match are taken one by one alike. -/
theorem runInOrder_matches {p p' : Project} (r : Runner σ)
    (phase : Phase) {components components' : List Component}
    (h : List.Forall₂ (Matches p p') components components') :
    runInOrder r p' phase components' = runInOrder r p phase components := by
  induction h with
  | nil => rfl
  | cons hc h ih =>
      funext host
      rw [runInOrder, runInOrder, hc.runComponent_eq r phase, ih]

namespace Descriptor.Agree

variable {d d' : Descriptor} (h : Agree d d') (r : Runner σ) (options : Options)

include h

theorem checkAll_eq : checkAll r d'.checks = checkAll r d.checks :=
  congrArg (checkAll r) h.checks_eq

theorem runPhaseInOrder_eq (phase : Phase) :
    runPhaseInOrder r ⟨d', options⟩ phase = runPhaseInOrder r ⟨d, options⟩ phase := by
  exact runInOrder_matches r phase (h.matches_components options)

theorem runAll_eq : runAll r ⟨d', options⟩ = runAll r ⟨d, options⟩ := by
  have hworkers : RunPhase.WorkersMatch ⟨d, options⟩ ⟨d', options⟩
      ((Project.components ⟨d, options⟩).map ({ component := · }))
      ((Project.components ⟨d', options⟩).map ({ component := · })) := by
    rw [RunPhase.WorkersMatch, List.forall₂_map_left_iff, List.forall₂_map_right_iff]
    exact (h.matches_components options).imp fun c c' hc => ⟨rfl, hc⟩
  funext host
  have hrecord := RunPhase.record_matches (r := r) (s := .start ⟨d, options⟩ host) hworkers
  simp only [runAll, ← hrecord]
  rfl

theorem dispatch_eq (command : Option Command) :
    dispatch r ⟨d', options⟩ command = dispatch r ⟨d, options⟩ command := by
  funext host
  unfold dispatch phaseNamed
  simp only [h.checkAll_eq, h.runPhaseInOrder_eq, h.runAll_eq]

end Descriptor.Agree

open RunPhase in
/-- **Overrides and labels influence nothing but the redirection of environment calls.** If a
descriptor comes from another by edits that change overrides which redirect nothing, the order and
number of the others, and labels, then with the same options and any runner:

* the checks, every phase and every command have the same outcome on both, that is, the same result,
  trace and console;
* and in a run phase the first call of a component's worker is its environment call. That one goes to
  the root file, in the directory of the root file, if an override says so, and otherwise to the
  component's own file in its own directory. The worker makes no other such call. -/
theorem outcome_eq_of_edits (r : Runner σ) (options : Options) {d d' : Descriptor}
    (h : Relation.ReflTransGen Descriptor.Edit d d') :
    (checkAll r d'.checks = checkAll r d.checks ∧
      (∀ phase, runPhaseInOrder r ⟨d', options⟩ phase = runPhaseInOrder r ⟨d, options⟩ phase) ∧
      runAll r ⟨d', options⟩ = runAll r ⟨d, options⟩ ∧
      ∀ command, dispatch r ⟨d', options⟩ command = dispatch r ⟨d, options⟩ command) ∧
    ∀ (host : Host σ) {number : Nat} {i : Include}, d.includes[number]? = some i →
      let p : Project := ⟨d, options⟩
      let c := Component.ofInclude i d.baseDir options.binRoot
      let env : Invocation :=
        if ⟨c.name, "env"⟩ ∈ d.overrides then
          { command := options.tool ++ " -f " ++ d.fullPath.text ++ " " ++ c.name ++ "/" ++ "env"
            dir := some d.baseDir }
        else { command := options.tool ++ " -f " ++ c.file ++ " " ++ "env", dir := some c.dir }
      let calls := Event.calls (deeds (share number (turns r p host)))
      calls = [env] ∨ ∃ printed, calls = [env, p.runInvocation c printed] := by
  have hagree := Descriptor.Agree.of_edits h
  refine ⟨⟨hagree.checkAll_eq r, hagree.runPhaseInOrder_eq r options, hagree.runAll_eq r options,
    hagree.dispatch_eq r options⟩, ?_⟩
  intro host number i hi p c env calls
  have hc : p.components[number]? = some c := by
    simp [Project.components, p, c, hi]
  have henv : p.envInvocation c = env := by
    simp only [Project.envInvocation, Descriptor.hasOverride, List.contains_iff_mem, env, p]
    rfl
  obtain ⟨behind, hcalls, rfl | ⟨printed, rfl, -⟩⟩ := calls_share r host hc
  · exact .inl (henv ▸ hcalls)
  · exact .inr ⟨printed, henv ▸ hcalls⟩

/-- Of two components with one name, both are redirected. An override for a component that is not
there, one for another target, a second copy of the first and new labels change nothing. -/
theorem outcome_eq_of_edits_same_name :
    let d : Descriptor :=
      ⟨[], [⟨⟨"a/api.mk"⟩, none⟩, ⟨⟨"b/api.mk"⟩, some "far"⟩],
        [⟨"api", "build"⟩, ⟨"api", "env"⟩], ⟨"/project/root.mk"⟩⟩
    let d' : Descriptor :=
      ⟨[], [⟨⟨"a/api.mk"⟩, some "near"⟩, ⟨⟨"b/api.mk"⟩, none⟩],
        [⟨"api", "env"⟩, ⟨"db", "env"⟩, ⟨"api", "env"⟩], ⟨"/project/root.mk"⟩⟩
    let options : Options := ⟨"make", ⟨"/project/bin"⟩, "DEST", 12⟩
    let r := scriptedRunner [{ needle := "env", output := "PORT=1", delay := 2 }]
    let host : Host Agenda := ⟨{}, .sound⟩
    Relation.ReflTransGen Descriptor.Edit d d' ∧
      dispatch r ⟨d', options⟩ none host = dispatch r ⟨d, options⟩ none host ∧
      ∃ behind, Event.calls
          (RunPhase.deeds (RunPhase.share 1 (RunPhase.turns r ⟨d, options⟩ host))) =
        { command := "make -f /project/root.mk api/env", dir := some ⟨"/project"⟩ } :: behind := by
  intro d d' options r host
  let shrunk : Descriptor := { d with overrides := [⟨"api", "env"⟩] }
  let grown : Descriptor := { d with overrides := [⟨"db", "env"⟩, ⟨"api", "env"⟩] }
  let doubled : Descriptor := { d with overrides := [⟨"api", "env"⟩, ⟨"db", "env"⟩, ⟨"api", "env"⟩] }
  have hdeletes : d.Edit shrunk :=
    .deletes (show d.overrides = [] ++ ⟨"api", "build"⟩ :: [⟨"api", "env"⟩] from rfl)
      (.inl (by decide))
  have hadds : shrunk.Edit grown :=
    .adds (show shrunk.overrides = [] ++ [⟨"api", "env"⟩] from rfl) (.inr (by decide))
  have hrepeats : grown.Edit doubled :=
    .repeats (show grown.overrides = [] ++ [⟨"db", "env"⟩, ⟨"api", "env"⟩] from rfl) (by decide)
  have hrelabels : doubled.Edit d' := .relabels rfl
  have hedits := (((Relation.ReflTransGen.single hdeletes).tail hadds).tail hrepeats).tail hrelabels
  obtain ⟨⟨-, -, -, hdispatch⟩, hcalls⟩ := outcome_eq_of_edits r options hedits
  refine ⟨hedits, congrFun (hdispatch none) host, ?_⟩
  have hshare := hcalls host (show d.includes[1]? = some ⟨⟨"b/api.mk"⟩, some "far"⟩ from rfl)
  dsimp only at hshare
  rw [if_pos (by decide)] at hshare
  have hcommand : options.tool ++ " -f " ++ d.fullPath.text ++ " " ++
      (Component.ofInclude ⟨⟨"b/api.mk"⟩, some "far"⟩ d.baseDir options.binRoot).name ++ "/" ++ "env" =
      "make -f /project/root.mk api/env" := by decide
  have hdir : d.baseDir = ⟨"/project"⟩ := by decide
  rw [hcommand, hdir] at hshare
  rcases hshare with hshare | ⟨printed, hshare⟩
  · exact ⟨[], hshare⟩
  · exact ⟨_, hshare⟩

end Ensemble
