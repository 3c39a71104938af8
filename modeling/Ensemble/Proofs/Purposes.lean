import Mathlib.Data.List.Nodup
import Mathlib.Data.List.Perm.Basic
import Mathlib.Logic.Relation
import Ensemble.Proofs.Freshness

/-!
# Ensemble.Proofs.Purposes

**What each call is made for.** The calls of a project are of a few kinds: those of the checks, of
the phases build, test and clean, and the two of the run phase. A call has a *purpose*: its kind,
and the position of the check or of the include that it is made for. `Project.Serves` says how the
call of a purpose looks, in every field. The main result, `calls_have_purposes`, says that whatever
is asked of a project, one thing after the other, and whatever the runner does, each call has a
purpose, and none is served twice as long as one thing is asked.

The purposes of the calls are accounted for (`Project.Accounts`) phase by phase, and the phases of a
command (`Dispatched`) use kinds of their own, so their accounts are put together
(`Accounts.append`). The calls of the run phase come in any order; they are accounted for worker by
worker, and an account can be put in another order (`Accounts.perm`).
-/

namespace Ensemble

/-! ### Purposes -/

/-- A kind of call. -/
inductive CallKind
  | check
  /-- The target of a phase that takes the components one by one. -/
  | target (phase : Phase)
  /-- The environment of a component. -/
  | env
  | run
deriving DecidableEq, Repr

/-- What a call is made for: a check or an include, by its position. -/
structure Purpose where
  kind : CallKind
  position : Nat
deriving DecidableEq, Repr

namespace Project

/-- How a call looks that is made for a purpose. -/
inductive Serves (p : Project) : Purpose → Invocation → Prop
  /-- A check is run as it is written, silently, where the program is, and without bindings. -/
  | check {k : Nat} {c : Check} (hc : p.descriptor.checks[k]? = some c) :
    Serves p ⟨.check, k⟩ { command := c.command, dir := none, env := [], capture := .silent }
  /-- A target is made in the component's directory, with the one binding of its destination, and is
  shown on the streams. -/
  | target {phase : Phase} {k : Nat} {c : Component} (hphase : phase ≠ .run)
    (hc : p.components[k]? = some c) :
    Serves p ⟨.target phase, k⟩
      { command := p.options.tool ++ " -f " ++ c.file ++ " " ++ phase.target
        dir := some c.dir
        env := [⟨p.options.destVar, c.dest.text⟩]
        capture := .streams }
  /-- The environment is asked for silently and without bindings, in the component's directory. -/
  | ownEnv {k : Nat} {c : Component} (hc : p.components[k]? = some c)
    (hown : ⟨c.name, "env"⟩ ∉ p.descriptor.overrides) :
    Serves p ⟨.env, k⟩
      { command := p.options.tool ++ " -f " ++ c.file ++ " " ++ "env"
        dir := some c.dir
        env := []
        capture := .silent }
  /-- If it is overridden, the root file is asked for it, in that file's directory. -/
  | rootEnv {k : Nat} {c : Component} (hc : p.components[k]? = some c)
    (hoverride : ⟨c.name, "env"⟩ ∈ p.descriptor.overrides) :
    Serves p ⟨.env, k⟩
      { command := p.options.tool ++ " -f " ++ p.descriptor.fullPath.text ++ " " ++ c.name ++ "/" ++
          "env"
        dir := some p.descriptor.baseDir
        env := []
        capture := .silent }
  /-- A component is run in its directory, behind a labeller; the last binding is that of its
  destination. -/
  | run {k : Nat} {c : Component} (hc : p.components[k]? = some c) (printed : List Binding) :
    Serves p ⟨.run, k⟩
      { command := p.options.tool ++ " -f " ++ c.file ++ " " ++ "run"
        dir := some c.dir
        env := printed ++ [⟨p.options.destVar, c.dest.text⟩]
        capture := .sink }

variable {p : Project} {k : Nat} {c : Component} {inv : Invocation} {a b : Purpose}

theorem serves_envInvocation (hc : p.components[k]? = some c) :
    p.Serves ⟨.env, k⟩ (p.envInvocation c) := by
  have hoverride : p.descriptor.hasOverride c.name envTarget ↔
      ⟨c.name, "env"⟩ ∈ p.descriptor.overrides := List.contains_iff_mem
  unfold envInvocation
  split <;> rename_i h
  · exact .rootEnv hc (hoverride.mp h)
  · exact .ownEnv hc (mt hoverride.mpr h)

theorem serves_runInvocation (hc : p.components[k]? = some c) (printed : String) :
    p.Serves ⟨.run, k⟩ (p.runInvocation c printed) :=
  .run hc (Binding.parseAll printed)

/-! ### One kind for each call -/

theorem Serves.capture_eq_sink_iff (h : p.Serves a inv) : inv.capture = .sink ↔ a.kind = .run := by
  cases h <;> simp

theorem Serves.capture_eq_streams_iff (h : p.Serves a inv) :
    inv.capture = .streams ↔ ∃ phase, a.kind = .target phase := by
  cases h <;> simp

theorem Serves.dir_eq_none_iff (h : p.Serves a inv) : inv.dir = none ↔ a.kind = .check := by
  cases h <;> simp

/-- The call for a target is one of its phase. -/
theorem Serves.isCall {phase : Phase} (h : p.Serves a inv) (ha : a.kind = .target phase) :
    p.IsCall phase inv := by
  cases h with
  | target hphase hc =>
      obtain rfl := CallKind.target.inj ha
      exact .inOrder (List.mem_of_getElem? hc) hphase
  | check | ownEnv | rootEnv | run => cases ha

/-- **No call is of two kinds.** -/
theorem Serves.kind_eq (h : p.Serves a inv) (h' : p.Serves b inv) : a.kind = b.kind := by
  have hsink := h.capture_eq_sink_iff.symm.trans h'.capture_eq_sink_iff
  have hstreams := h.capture_eq_streams_iff.symm.trans h'.capture_eq_streams_iff
  have hdir := h.dir_eq_none_iff.symm.trans h'.dir_eq_none_iff
  cases ha : a.kind with
  | check => exact (hdir.mp ha).symm
  | run => exact (hsink.mp ha).symm
  | target phase =>
      obtain ⟨phase', hb⟩ := hstreams.mp ⟨phase, ha⟩
      rw [hb, (h.isCall ha).phase_eq (h'.isCall hb)]
  | env =>
      cases hb : b.kind with
      | env => rfl
      | check => exact ha.symm.trans (hdir.mpr hb)
      | run => exact ha.symm.trans (hsink.mpr hb)
      | target phase =>
          obtain ⟨phase', ha'⟩ := hstreams.mpr ⟨phase, hb⟩
          cases ha.symm.trans ha'

/-! ### Accounts -/

/-- Calls are accounted for: each has a purpose of one of the kinds, and no two have the same. -/
def Accounts (p : Project) (kinds : List CallKind) (calls : List Invocation) : Prop :=
  ∃ purposes : List Purpose, List.Forall₂ p.Serves purposes calls ∧ purposes.Nodup ∧
    ∀ a ∈ purposes, a.kind ∈ kinds

variable {kinds kinds' : List CallKind} {calls calls' : List Invocation}

theorem Accounts.exists_serves (h : p.Accounts kinds calls) (hinv : inv ∈ calls) :
    ∃ a, p.Serves a inv := by
  obtain ⟨purposes, hserves, -, -⟩ := h
  obtain ⟨n, hn, rfl⟩ := List.mem_iff_getElem.mp hinv
  have hn' : n < purposes.length := hserves.length_eq ▸ hn
  exact ⟨purposes[n], hserves.get hn' hn⟩

/-- Calls of other kinds are accounted for apart. -/
theorem Accounts.append (h : p.Accounts kinds calls) (h' : p.Accounts kinds' calls')
    (hkinds : kinds.Disjoint kinds') : p.Accounts (kinds ++ kinds') (calls ++ calls') := by
  obtain ⟨purposes, hserves, hnodup, hmem⟩ := h
  obtain ⟨purposes', hserves', hnodup', hmem'⟩ := h'
  refine ⟨purposes ++ purposes', List.rel_append hserves hserves',
    hnodup.append hnodup' fun a ha ha' => hkinds (hmem a ha) (hmem' a ha'), fun a ha => ?_⟩
  rw [List.mem_append] at ha ⊢
  exact ha.imp (hmem a) (hmem' a)

/-- Calls can be accounted for in another order. -/
theorem Accounts.perm (h : p.Accounts kinds calls) (hperm : calls.Perm calls') :
    p.Accounts kinds calls' := by
  obtain ⟨purposes, hserves, hnodup, hmem⟩ := h
  have hcomp : Relation.Comp (List.Forall₂ p.Serves) List.Perm purposes calls' :=
    ⟨calls, hserves, hperm⟩
  -- The purposes are put in the order of the calls.
  rw [List.forall₂_comp_perm_eq_perm_comp_forall₂] at hcomp
  obtain ⟨purposes', hpurposes, hserves'⟩ := hcomp
  exact ⟨purposes', hserves', hpurposes.nodup_iff.mp hnodup,
    fun a ha => hmem a (hpurposes.mem_iff.mpr ha)⟩

/-- With more kinds, no less is accounted for. -/
theorem Accounts.mono (h : p.Accounts kinds calls) (hkinds : kinds ⊆ kinds') :
    p.Accounts kinds' calls := by
  obtain ⟨purposes, hserves, hnodup, hmem⟩ := h
  exact ⟨purposes, hserves, hnodup, fun a ha => hkinds (hmem a ha)⟩

/-- Calls of one kind that are made in order, as far as it goes. -/
theorem accounts_of_prefix {kind : CallKind} {xs : List α} {f : α → Invocation}
    (hserves : ∀ {k x}, xs[k]? = some x → p.Serves ⟨kind, k⟩ (f x)) (h : calls <+: xs.map f) :
    p.Accounts [kind] calls := by
  refine ⟨(List.range calls.length).map (⟨kind, ·⟩), ?_, ?_, ?_⟩
  · refine List.forall₂_iff_get.mpr ⟨by simp, fun n hn hn' => ?_⟩
    have hcall := h.getElem hn'
    rw [List.getElem_map] at hcall
    simp only [List.get_eq_getElem, List.getElem_map, List.getElem_range, hcall]
    exact hserves (List.getElem?_eq_getElem _)
  · exact List.nodup_range.map fun k k' h => congrArg Purpose.position h
  · simp

/-- The calls of numbered workers, if those of each worker are made for its own number. -/
theorem accounts_flatMap {n : Nat} {own : Nat → List Invocation}
    (h : ∀ i < n, ∃ purposes, List.Forall₂ p.Serves purposes (own i) ∧ purposes.Nodup ∧
      ∀ a ∈ purposes, a.kind ∈ kinds ∧ a.position = i) :
    p.Accounts kinds ((List.range n).flatMap own) := by
  -- The purposes so far are for numbers below, so those of the next worker are none of them.
  suffices hbelow : ∃ purposes, List.Forall₂ p.Serves purposes ((List.range n).flatMap own) ∧
      purposes.Nodup ∧ ∀ a ∈ purposes, a.kind ∈ kinds ∧ a.position < n by
    obtain ⟨purposes, hserves, hnodup, hmem⟩ := hbelow
    exact ⟨purposes, hserves, hnodup, fun a ha => (hmem a ha).1⟩
  induction n with
  | zero => exact ⟨[], .nil, List.nodup_nil, nofun⟩
  | succ n ih =>
      obtain ⟨purposes, hserves, hnodup, hmem⟩ := ih fun i hi => h i (Nat.lt_succ_of_lt hi)
      obtain ⟨last, hserves', hnodup', hmem'⟩ := h n (Nat.lt_succ_self n)
      refine ⟨purposes ++ last, ?_, hnodup.append hnodup' fun a ha ha' => ?_, fun a ha => ?_⟩
      · rw [List.range_succ, List.flatMap_append, List.flatMap_singleton]
        exact List.rel_append hserves hserves'
      · exact absurd (hmem' a ha').2 (Nat.ne_of_lt (hmem a ha).2)
      · rcases List.mem_append.mp ha with ha | ha
        · exact ⟨(hmem a ha).1, Nat.lt_succ_of_lt (hmem a ha).2⟩
        · exact ⟨(hmem' a ha).1, (hmem' a ha).2 ▸ Nat.lt_succ_self n⟩

end Project

/-! ### Passes -/

/-- The calls that errands make are the first of theirs. -/
theorem UpToFailure.calls_prefix {errands : List Errand} {answers : List Answered}
    {result : Except Failure Unit} (h : UpToFailure errands answers result) :
    answers.map (·.1) <+: errands.map (·.inv) := by
  induction h with
  | done => exact List.prefix_rfl
  | @goesOn e _ _ _ _ hok rest ih => exact (List.prefix_cons_inj e.inv).mpr ih
  | stops hfails => exact ⟨_, rfl⟩

/-- Errands of one kind are accounted for by their positions. -/
theorem Outcome.Does.accounts {o : Outcome σ} {p : Project} {kind : CallKind} {xs : List α}
    {f : α → Errand} (h : o.Does (xs.map f))
    (hserves : ∀ {k x}, xs[k]? = some x → p.Serves ⟨kind, k⟩ (f x).inv) :
    p.Accounts [kind] (Event.calls o.trace) := by
  refine Project.accounts_of_prefix (f := fun x => (f x).inv) hserves ?_
  have hprefix := h.upToFailure.calls_prefix
  rwa [← h.calls_eq, List.map_map] at hprefix

theorem checkAll_accounts (r : Runner σ) (p : Project) (host : Host σ) :
    p.Accounts [.check] (Event.calls (checkAll r p.descriptor.checks host).trace) :=
  (checkAll_does r p.descriptor.checks host).accounts fun hc => .check hc

theorem runPhaseInOrder_accounts (r : Runner σ) (p : Project) (phase : Phase)
    (hphase : phase ≠ .run) (host : Host σ) :
    p.Accounts [.target phase] (Event.calls (runPhaseInOrder r p phase host).trace) :=
  (runInOrder_does r p phase p.components host).accounts fun hc => .target hphase hc

/-- A worker serves two purposes at most, both for its own include. -/
theorem RunPhase.exists_purposes_share (r : Runner σ) (p : Project) (host : Host σ) {i : Nat}
    (hi : i < p.components.length) :
    ∃ purposes, List.Forall₂ p.Serves purposes (Event.calls (deeds (share i (turns r p host)))) ∧
      purposes.Nodup ∧ ∀ a ∈ purposes, a.kind ∈ [.env, .run] ∧ a.position = i := by
  have hc : p.components[i]? = some p.components[i] := List.getElem?_eq_getElem hi
  obtain ⟨behind, hcalls, hafter⟩ := calls_share r host hc
  rw [hcalls]
  rcases hafter with rfl | ⟨printed, rfl, -⟩
  · exact ⟨[⟨.env, i⟩], .cons (p.serves_envInvocation hc) .nil, by simp, by simp⟩
  · exact ⟨[⟨.env, i⟩, ⟨.run, i⟩],
      .cons (p.serves_envInvocation hc) (.cons (p.serves_runInvocation hc printed) .nil),
      by simp, by simp⟩

theorem runAll_accounts (r : Runner σ) (p : Project) (host : Host σ) :
    p.Accounts [.env, .run] (Event.calls (runAll r p host).trace) := by
  have hcalls : Event.calls (runAll r p host).trace =
      Event.calls (RunPhase.deeds (RunPhase.turns r p host)) := RunPhase.calls_tell false _
  rw [hcalls]
  exact (Project.accounts_flatMap fun i hi => RunPhase.exists_purposes_share r p host hi).perm
    (RunPhase.perm_filterMap_deeds Event.call? RunPhase.number_lt_length_components)

/-! ### Demands -/

/-- What can be asked of a project. -/
inductive Demand
  | checks
  | pass (phase : Phase)
  | command (given : Option Command)
deriving DecidableEq, Repr

namespace Demand

def perform (r : Runner σ) (p : Project) : Demand → Action σ
  | checks => checkAll r p.descriptor.checks
  | pass .run => runAll r p
  | pass phase => runPhaseInOrder r p phase
  | command given => dispatch r p given

/-- One demand after the other, whatever becomes of those before. -/
def performAll (r : Runner σ) (p : Project) : List Demand → Host σ → List (Outcome σ)
  | [], _ => []
  | d :: demands, host =>
    let o := d.perform r p host
    o :: performAll r p demands o.host

/-- The kinds of calls that a demand needs. -/
def kinds : Demand → List CallKind
  | checks => [.check]
  | pass .run => [.env, .run]
  | pass phase => [.target phase]
  | command none => [.check, .target .build, .env, .run]
  | command (some given) => [.check, .target (phaseOf (some given)).1]

theorem accounts_command (r : Runner σ) (p : Project) (given : Option Command) (host : Host σ) :
    p.Accounts (command given).kinds (Event.calls (dispatch r p given host).trace) := by
  have hdispatched := dispatch_dispatched r p given host
  generalize dispatch r p given host = o at hdispatched ⊢
  have hchecks := checkAll_accounts r p host
  have hpass (host : Host σ) := runPhaseInOrder_accounts r p _ (phase_ne_run given) host
  have hboth : [.check] ++ [.target (phaseOf given).1] ⊆ (command given).kinds := by
    rcases given with _ | _ | _ | _ <;> simp [kinds, phaseOf]
  cases hdispatched with
  | stopped hchecked hfails =>
      rw [hchecked] at hchecks
      exact hchecks.mono (List.Subset.trans (List.subset_append_left _ _) hboth)
  | failed hchecked hpassed hmade hfails =>
      rw [hchecked] at hchecks
      rw [Event.calls_append]
      exact (hchecks.append (hmade ▸ hpass _) (by simp)).mono hboth
  | done hcommand hchecked hpassed hmade hsucceeds =>
      rw [hchecked] at hchecks
      rw [Event.calls_append]
      exact (hchecks.append (hmade ▸ hpass _) (by simp)).mono hboth
  | ran hcommand hchecked hpassed hmade hsucceeds hran =>
      subst hcommand
      rw [hchecked] at hchecks
      rw [Event.calls_append, Event.calls_append]
      -- The run phase uses kinds of its own behind the build.
      have hlast := (hmade ▸ hpass _).append (hran ▸ runAll_accounts r p _) (by simp)
      exact hchecks.append hlast (by simp)

theorem accounts_perform (r : Runner σ) (p : Project) (d : Demand) (host : Host σ) :
    p.Accounts d.kinds (Event.calls (d.perform r p host).trace) := by
  rcases d with _ | phase | given
  · exact checkAll_accounts r p host
  · cases phase with
    | run => exact runAll_accounts r p host
    | build => exact runPhaseInOrder_accounts r p .build (by decide) host
    | test => exact runPhaseInOrder_accounts r p .test (by decide) host
    | clean => exact runPhaseInOrder_accounts r p .clean (by decide) host
  · exact accounts_command r p given host

theorem forall₂_performAll {motive : Demand → Outcome σ → Prop} {r : Runner σ} {p : Project}
    (h : ∀ d host, motive d (d.perform r p host)) (demands : List Demand) (host : Host σ) :
    List.Forall₂ motive demands (performAll r p demands host) := by
  induction demands generalizing host with
  | nil => exact .nil
  | cons d demands ih => exact .cons (h d host) (ih _)

end Demand

/-- **Every call has its purpose.** For every project, every runner and whatever is asked of the
project, one thing after the other:

* the calls that are made for one demand are accounted for: each has a purpose, of a kind that the
  demand needs, and no purpose is served twice;
* each call is of exactly one kind;
* it goes to a labeller exactly if it runs a component. -/
theorem calls_have_purposes (r : Runner σ) (p : Project) (demands : List Demand) (host : Host σ) :
    List.Forall₂
      (fun d o =>
        (∃ purposes, List.Forall₂ p.Serves purposes (Event.calls o.trace) ∧ purposes.Nodup ∧
          ∀ a ∈ purposes, a.kind ∈ d.kinds) ∧
        ∀ inv ∈ Event.calls o.trace, (∃! kind, ∃ k, p.Serves ⟨kind, k⟩ inv) ∧
          (inv.capture = .sink ↔ ∃ k, p.Serves ⟨.run, k⟩ inv))
      demands (Demand.performAll r p demands host) := by
  refine Demand.forall₂_performAll (fun d host => ?_) demands host
  have haccounts := d.accounts_perform r p host
  refine ⟨haccounts, fun inv hinv => ?_⟩
  obtain ⟨⟨kind, k⟩, hserves⟩ := haccounts.exists_serves hinv
  refine ⟨⟨kind, ⟨k, hserves⟩, ?_⟩, ?_⟩
  · rintro kind' ⟨k', hserves'⟩
    exact hserves'.kind_eq hserves
  · rw [hserves.capture_eq_sink_iff]
    refine ⟨?_, fun ⟨k', hserves'⟩ => hserves.kind_eq hserves'⟩
    rintro rfl
    exact ⟨k, hserves⟩

/-- A file that is included twice, and whose environment is overridden: one and the same call is
made for two purposes. -/
theorem calls_have_purposes_of_twins :
    let scripts : List Script := [{ needle := "env", output := "PORT=80" }]
    let a : Include := ⟨⟨"a/a.mk"⟩, none⟩
    let p : Project :=
      ⟨⟨[], [a, a], [⟨"a", "env"⟩], ⟨"/project/main.mk"⟩⟩, ⟨"make", ⟨"/bin"⟩, "DEST", 12⟩⟩
    let o := runAll (scriptedRunner scripts) p ⟨{}, .sound⟩
    let inv : Invocation :=
      { command := "make -f /project/main.mk a/env", dir := some ⟨"/project"⟩ }
    inv ∈ Event.calls o.trace ∧ p.Serves ⟨.env, 0⟩ inv ∧ p.Serves ⟨.env, 1⟩ inv ∧
      (∃! kind, ∃ k, p.Serves ⟨kind, k⟩ inv) ∧
      ∃ purposes, List.Forall₂ p.Serves purposes (Event.calls o.trace) ∧ purposes.Nodup := by
  intro scripts a p o inv
  have hfirst : p.components[0]? = some (.ofInclude a ⟨"/project"⟩ ⟨"/bin"⟩) := by decide
  have hsecond : p.components[1]? = some (.ofInclude a ⟨"/project"⟩ ⟨"/bin"⟩) := by decide
  have hinv : p.envInvocation (.ofInclude a ⟨"/project"⟩ ⟨"/bin"⟩) = inv := by decide
  have hmem : inv ∈ Event.calls o.trace :=
    hinv ▸ RunPhase.envInvocation_mem_calls (scriptedRunner scripts) _ hfirst
  have h := calls_have_purposes (scriptedRunner scripts) p [.pass .run] ⟨{}, .sound⟩
  obtain ⟨⟨purposes, hserves, hnodup, -⟩, hcalls⟩ := (List.forall₂_cons.mp h).1
  exact ⟨hmem, hinv ▸ p.serves_envInvocation hfirst, hinv ▸ p.serves_envInvocation hsecond,
    (hcalls inv hmem).1, purposes, hserves, hnodup⟩

end Ensemble
