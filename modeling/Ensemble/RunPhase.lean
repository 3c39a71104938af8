import Ensemble.Sequence

/-!
# Ensemble.RunPhase

The **run phase**: all components at once. Each has a worker that first asks for the component's
environment and then runs it behind a labeller. The workers share the console and the runner's world.
They are started in the order of the includes, under their numbers in this order; a worker goes on
whenever its command is heard of, and otherwise it waits. What is heard at once of a command goes
before the start of the next worker.

A worker that fails stops no other. When all have ended, the failure of the one that ended first is
the result of the phase.

The phase goes from state to state (`step?`), and each step is a turn of one worker. The turns are
kept (`record`), under the numbers of the workers; the trace and the result are read off them.
-/

namespace Ensemble

/-! ### Workers -/

/-- How far a worker has come. -/
inductive Stage
  | waiting
  /-- The environment call is running. -/
  | asking
  /-- The run call `inv` is running, behind a labeller. -/
  | running (inv : Invocation) (labeller : Labeller)
  | done

/-- A component's worker. -/
structure Worker where
  component : Component
  stage : Stage := .waiting

/-- The end of a worker. -/
structure Farewell where
  /-- What the worker is known by in the log. -/
  name : String
  result : Except Failure Unit

/-- The failure with which a worker has ended, if it failed. -/
def Farewell.failure? (f : Farewell) : Option Failure :=
  match f.result with
  | .ok () => none
  | .error failure => some failure

/-- One step of a worker. -/
structure Turn (σ : Type) where
  stage : Stage
  trace : List Event := []
  host : Host σ
  farewell? : Option Farewell := none

namespace Worker

/-- Has the worker not begun yet? -/
def isWaiting (w : Worker) : Bool :=
  match w.stage with
  | .waiting => true
  | _ => false

/-- Where the environment call failed. -/
def envFailure (c : Component) (fault : Fault) : Failure :=
  ((Failure.ofFault fault).within ("failed to get env " ++ c.dir.text)).within
    ("failed to resolve env for component '" ++ c.name ++ "'")

/-- Where the run call failed. -/
def runFailure (c : Component) (fault : Fault) : Failure :=
  (Failure.ofFault fault).within (phaseContext .run c)

/-- A worker that could not make its labeller has broken down. -/
def broken : Failure :=
  ⟨["run worker did not complete"], .workerBroke⟩

/-- Start the environment call. -/
def askEnv (r : Runner σ) (p : Project) (number : Nat) (c : Component) (host : Host σ) : Turn σ :=
  let inv := p.envInvocation c
  { stage := .asking
    trace := [.began .run c.name, .started inv]
    host := { host with world := r.start number inv host.world } }

/-- The environment call has ended: start the run call, behind a labeller. -/
def startRun (r : Runner σ) (p : Project) (number : Nat) (c : Component)
    (answer : Except Fault String) (host : Host σ) : Turn σ :=
  let told := [.completed (p.envInvocation c).command, .answered (p.envInvocation c) answer]
  match answer with
  | .error fault => ⟨.done, told, host, some ⟨c.name, .error (envFailure c fault)⟩⟩
  | .ok printed =>
    match Labeller.new? c.name p.options.labelWidth with
    | none => ⟨.done, told, host, some ⟨"<unknown>", .error broken⟩⟩
    | some labeller =>
      let inv := p.runInvocation c printed
      { stage := .running inv labeller
        trace := told ++ [.started inv]
        host := { host with world := r.start number inv host.world } }

/-- What the console stored, told line by line, and its refusal, if it refused. -/
def told (earlier console : Console) (result : Except IoFault Unit) : List Event :=
  (console.storedSince earlier).map .labelled ++
    match result with
    | .ok () => []
    | .error fault => [.refused fault]

/-- The console has refused some output, and that makes the command fail. -/
def refused (c : Component) (inv : Invocation) (fault : IoFault) (trace : List Event)
    (host : Host σ) : Turn σ :=
  ⟨.done, trace ++ [.answered inv (.error (.io fault))], host,
    some ⟨c.name, .error (runFailure c (.io fault))⟩⟩

/-- Pass on one chunk. -/
def passOn (r : Runner σ) (c : Component) (inv : Invocation) (labeller : Labeller) (chunk : Chunk)
    (host : Host σ) : Turn σ :=
  let (answer, labeller, console) := Sink.labelled.offer (labeller, host.console) chunk
  let trace := told host.console console answer
  let host := { host with console }
  match answer, r.failsOnRefusal with
  | .error fault, true => refused c inv fault trace host
  | _, _ => ⟨.running inv labeller, trace, host, none⟩

/-- What becomes of a worker whose run call has ended. -/
def verdict (c : Component) : Except Fault String → Except Failure Unit
  | .ok _ => .ok ()
  | .error fault => .error (runFailure c fault)

/-- The command is over: pass on what the labeller holds back. -/
def finish (r : Runner σ) (c : Component) (inv : Invocation) (labeller : Labeller)
    (result : Except Fault String) (host : Host σ) : Turn σ :=
  let (answer, _, console) := Sink.labelled.finish (labeller, host.console)
  let trace := told host.console console answer
  let host := { host with console }
  match answer, r.failsOnRefusal with
  | .error fault, true => refused c inv fault trace host
  | _, _ =>
    ⟨.done, trace ++ [.completed inv.command, .answered inv result], host,
      some ⟨c.name, verdict c result⟩⟩

/-- Something is heard of the command of a worker. -/
def hear (r : Runner σ) (p : Project) (number : Nat) (w : Worker) (news : News) (host : Host σ) :
    Turn σ :=
  match w.stage, news with
  | .asking, .ended answer => startRun r p number w.component answer host
  | .running inv labeller, .chunk chunk => passOn r w.component inv labeller chunk host
  | .running inv labeller, .ended result => finish r w.component inv labeller result host
  | stage, _ => { stage, host }

end Worker

/-! ### The phase -/

namespace RunPhase

/-- What happens next. -/
inductive Next (σ : Type)
  /-- A worker begins. -/
  | begins (number : Nat)
  | hears (heard : Heard σ)
  | over

/-- What happens next: the workers begin one after the other, unless something is heard at once. -/
def next (r : Runner σ) (workers : List Worker) (world : σ) : Next σ :=
  match workers.findIdx? Worker.isWaiting, r.next? world with
  | some number, some heard => if heard.atOnce then .hears heard else .begins number
  | some number, none => .begins number
  | none, some heard => .hears heard
  | none, none => .over

/-! #### How long it can last -/

/-- The calls that a worker may still make. -/
def callsLeft (w : Worker) : Nat :=
  match w.stage with
  | .waiting => 2
  | .asking => 1
  | .running .. | .done => 0

/-- The calls that the workers may still make. -/
def allCallsLeft (workers : List Worker) : Nat :=
  workers.foldr (fun w n => callsLeft w + n) 0

theorem allCallsLeft_set {workers : List Worker} {number : Nat} {w : Worker}
    (h : workers[number]? = some w) (w' : Worker) :
    allCallsLeft (workers.set number w') + callsLeft w = allCallsLeft workers + callsLeft w' := by
  induction workers generalizing number with
  | nil => simp at h
  | cons v workers ih =>
    cases number with
    | zero =>
      simp only [List.getElem?_cons_zero, Option.some.injEq] at h
      subst h
      simp [allCallsLeft]
      omega
    | succ number =>
      have := @ih number (by simpa using h)
      simp only [allCallsLeft, List.set_cons_succ, List.foldr_cons] at this ⊢
      omega

/-- A worker that something is heard of makes no more calls than it has left, and if it makes one it
has one less. -/
theorem callsLeft_hear (r : Runner σ) (p : Project) (number : Nat) (w : Worker) (news : News)
    (host : Host σ) :
    callsLeft ⟨w.component, (w.hear r p number news host).stage⟩ < callsLeft w ∨
      callsLeft ⟨w.component, (w.hear r p number news host).stage⟩ = callsLeft w ∧
        (w.hear r p number news host).host.world = host.world := by
  obtain ⟨c, stage⟩ := w
  unfold Worker.hear
  split <;> rename_i hs
  · subst hs
    left
    unfold Worker.startRun
    split
    · simp [callsLeft]
    · split <;> simp [callsLeft]
  · subst hs
    right
    unfold Worker.passOn
    dsimp only
    split <;> simp [callsLeft, Worker.refused]
  · subst hs
    right
    unfold Worker.finish
    dsimp only
    split <;> simp [callsLeft, Worker.refused]
  · right
    simp_all [callsLeft]

/-- The workers together have fewer calls left when one has been heard of, or as many, and then nothing
has been started. -/
theorem allCallsLeft_hear (r : Runner σ) (p : Project) {workers : List Worker} {number : Nat}
    {w : Worker} (h : workers[number]? = some w) (news : News) (host : Host σ) :
    allCallsLeft (workers.set number ⟨w.component, (w.hear r p number news host).stage⟩) <
        allCallsLeft workers ∨
      allCallsLeft (workers.set number ⟨w.component, (w.hear r p number news host).stage⟩) =
          allCallsLeft workers ∧
        (w.hear r p number news host).host.world = host.world := by
  have ht := allCallsLeft_set h ⟨w.component, (w.hear r p number news host).stage⟩
  rcases callsLeft_hear r p number w news host with hc | ⟨hc, hworld⟩
  · left
    omega
  · exact .inr ⟨by omega, hworld⟩

/-- A worker that begins has all its calls left. -/
theorem callsLeft_of_begins {r : Runner σ} {workers : List Worker} {world : σ} {number : Nat}
    (h : next r workers world = .begins number) {w : Worker} (hw : workers[number]? = some w) :
    callsLeft w = 2 := by
  have hi : workers.findIdx? Worker.isWaiting = some number := by
    unfold next at h
    split at h
    · split at h <;> simp_all
    all_goals simp_all
  obtain ⟨hlt, hwait, -⟩ := List.findIdx?_eq_some_iff_getElem.1 hi
  obtain rfl : workers[number] = w := by simpa [hlt] using hw
  unfold Worker.isWaiting at hwait
  unfold callsLeft
  split at hwait <;> simp_all

theorem size_of_hears {r : Runner σ} {workers : List Worker} {world : σ} {heard : Heard σ}
    (h : next r workers world = .hears heard) : r.size heard.world < r.size world := by
  have hn : r.next? world = some heard := by
    unfold next at h
    split at h
    · split at h <;> simp_all
    all_goals simp_all
  exact r.size_next hn

/-! #### The whole phase -/

/-- The workers, and the host that they share. -/
structure State (σ : Type) where
  workers : List Worker
  host : Host σ

/-- What a worker did in a turn, under its number. -/
structure Entry where
  number : Nat
  trace : List Event
  farewell? : Option Farewell := none

/-- A worker has a turn. -/
def State.turn (s : State σ) (number : Nat) (w : Worker) (t : Turn σ) : Option Entry × State σ :=
  (some ⟨number, t.trace, t.farewell?⟩, ⟨s.workers.set number ⟨w.component, t.stage⟩, t.host⟩)

/-- What happens next, and the state after it, as long as something happens. No worker has a turn
when a command is heard of that none of them has started. -/
def step? (r : Runner σ) (p : Project) (s : State σ) : Option (Option Entry × State σ) :=
  match next r s.workers s.host.world with
  | .over => none
  | .begins number =>
    s.workers[number]?.map fun w =>
      s.turn number w (Worker.askEnv r p number w.component s.host)
  | .hears heard =>
    let host := { s.host with world := heard.world }
    match s.workers[heard.number]? with
    | none => some (none, { s with host })
    | some w => some (s.turn heard.number w (w.hear r p heard.number heard.news host))

/-- With each step there are fewer calls left, or as many and less to be heard. -/
theorem measure_step {r : Runner σ} {p : Project} {s s' : State σ} {turn? : Option Entry}
    (h : step? r p s = some (turn?, s')) :
    Prod.Lex (· < ·) (· < ·) (allCallsLeft s'.workers, r.size s'.host.world)
      (allCallsLeft s.workers, r.size s.host.world) := by
  rw [Prod.lex_def]
  unfold step? at h
  split at h
  · cases h
  · rename_i number hn
    obtain ⟨w, hw, ht⟩ := Option.map_eq_some_iff.mp h
    cases ht
    have := callsLeft_of_begins hn hw
    have := allCallsLeft_set hw ⟨w.component, .asking⟩
    left
    simp only [callsLeft, Worker.askEnv] at *
    omega
  · rename_i heard hn
    have hs := size_of_hears hn
    dsimp only at h
    split at h <;> rename_i hw <;> cases h
    · exact .inr ⟨rfl, hs⟩
    · rcases allCallsLeft_hear r p hw heard.news { s.host with world := heard.world } with
        hc | ⟨hc, hworld⟩
      · exact .inl hc
      · exact .inr ⟨hc, Nat.lt_of_le_of_lt (Nat.le_of_eq (congrArg r.size hworld)) hs⟩

/-- Let the workers go on until all have ended: their turns in order, and the host after them. -/
def record (r : Runner σ) (p : Project) (s : State σ) : List Entry × Host σ :=
  match _h : step? r p s with
  | none => ([], s.host)
  | some (turn?, s') =>
    let (entries, host) := record r p s'
    (turn?.toList ++ entries, host)
termination_by (allCallsLeft s.workers, r.size s.host.world)
decreasing_by exact measure_step _h

/-- The failure with which a worker has ended in a turn. -/
def Entry.failure? (e : Entry) : Option Failure :=
  e.farewell?.bind Farewell.failure?

/-- What is told of a worker that has ended, maybe not as the first one to fail. -/
def farewell (failedBefore : Bool) : Option Farewell → List Event
  | none => []
  | some ⟨name, .ok ()⟩ => [.finished .run name]
  | some ⟨name, .error failure⟩ =>
    .workerFailed name failure :: if failedBefore then [.alreadyFailed name] else []

/-- The trace of turns. -/
def tell (failedBefore : Bool) : List Entry → List Event
  | [] => []
  | e :: entries =>
    e.trace ++ farewell failedBefore e.farewell? ++
      tell (failedBefore || e.failure?.isSome) entries

/-- The result of the phase: the first failure, if there is one. -/
def verdict (entries : List Entry) : Except Failure Unit :=
  match entries.findSome? Entry.failure? with
  | none => .ok ()
  | some failure => .error failure

/-- The state in which the phase begins. -/
def State.start (p : Project) (host : Host σ) : State σ :=
  ⟨p.components.map ({ component := · }), host⟩

end RunPhase

/-- Run all components at once. -/
def runAll (r : Runner σ) (p : Project) : Action σ := fun host =>
  let (entries, host) := RunPhase.record r p (.start p host)
  ⟨RunPhase.verdict entries, RunPhase.tell false entries, host⟩

end Ensemble
