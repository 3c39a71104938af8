import Ensemble.Event

/-!
# Ensemble.Runner

**Runners** execute invocations. A runner works on a world `σ` of its own, in which any number of
commands can be running at once. Each is started under a number; from then on it is *heard of*: its
chunks of output come one by one, and at last its result. The runner tells what comes next of all
that are running, so a command can do what it does because of another one.

An `Action` is a piece of a run: it takes the world and the console, and leaves a result, a trace
and the world and console after it. Actions are put together by `Outcome.andThen`, which stops at
the first failure.
-/

namespace Ensemble

/-- What is heard of a running command. -/
inductive News
  | chunk (c : Chunk)
  /-- The command has ended. Nothing more is heard of it. -/
  | ended (result : Except Fault String)

/-- Something that is heard in a world, and the world in which it has been heard. -/
structure Heard (σ : Type) where
  /-- The number under which the command was started. -/
  number : Nat
  news : News
  /-- Has no time passed since the last that was heard or started? -/
  atOnce : Bool := false
  world : σ

/-- A way to execute invocations. -/
structure Runner (σ : Type) where
  /-- Start an invocation now, under a number. -/
  start : Nat → Invocation → σ → σ
  /-- What is heard next, as long as anything is running. -/
  next? : σ → Option (Heard σ)
  /-- A bound on how often something can still be heard. -/
  size : σ → Nat
  size_next : ∀ {world : σ} {heard : Heard σ}, next? world = some heard → size heard.world < size world
  /-- Does a command fail when its output is refused? -/
  failsOnRefusal : Bool

/-- The runner's world, and the console that the run phase writes to. -/
structure Host (σ : Type) where
  world : σ
  console : Console

/-- What an action leaves behind. -/
structure Outcome (σ : Type) where
  result : Except Failure Unit
  trace : List Event
  host : Host σ

/-- A piece of a run. -/
abbrev Action (σ : Type) := Host σ → Outcome σ

namespace Outcome

/-- Nothing happened, and nothing failed. -/
def done (host : Host σ) : Outcome σ :=
  ⟨.ok (), [], host⟩

/-- The outcome, with earlier events put before its own. -/
def after (o : Outcome σ) (earlier : List Event) : Outcome σ :=
  { o with trace := earlier ++ o.trace }

/-- Go on, unless something failed. -/
def andThen (o : Outcome σ) (next : Action σ) : Outcome σ :=
  match o.result with
  | .ok () => (next o.host).after o.trace
  | .error _ => o

/-- Put a circumstance around a failure. -/
def within (o : Outcome σ) (context : String) : Outcome σ :=
  { o with result := o.result.mapError (·.within context) }

@[simp] theorem trace_within (o : Outcome σ) (context : String) :
    (o.within context).trace = o.trace := rfl

@[simp] theorem host_within (o : Outcome σ) (context : String) :
    (o.within context).host = o.host := rfl

@[simp] theorem result_within (o : Outcome σ) (context : String) :
    (o.within context).result = o.result.mapError (·.within context) := rfl

@[simp] theorem trace_after (o : Outcome σ) (earlier : List Event) :
    (o.after earlier).trace = earlier ++ o.trace := rfl

@[simp] theorem result_after (o : Outcome σ) (earlier : List Event) :
    (o.after earlier).result = o.result := rfl

theorem andThen_of_ok {o : Outcome σ} (h : o.result = .ok ()) (next : Action σ) :
    o.andThen next = (next o.host).after o.trace := by
  simp [andThen, h]

theorem andThen_of_error {o : Outcome σ} {e : Failure} (h : o.result = .error e)
    (next : Action σ) : o.andThen next = o := by
  simp [andThen, h]

theorem within_andThen_of_ok {o : Outcome σ} (h : o.result = .ok ()) (context : String)
    (next : Action σ) : (o.within context).andThen next = (next o.host).after o.trace := by
  have hwithin : (o.within context).result = .ok () := by
    rw [result_within, h]
    rfl
  rw [andThen_of_ok hwithin, host_within, trace_within]

theorem within_andThen_of_error {o : Outcome σ} {e : Failure} (h : o.result = .error e)
    (context : String) (next : Action σ) :
    (o.within context).andThen next = ⟨.error (e.within context), o.trace, o.host⟩ := by
  have hwithin : (o.within context).result = .error (e.within context) := by
    rw [result_within, h]
    rfl
  rw [andThen_of_error hwithin, ← hwithin]
  rfl

end Outcome

namespace Runner

/-- Listen to the command of a number until it ends: its result, its chunks, and the world after it.
What is heard of other commands is passed over. -/
def listen (r : Runner σ) (number : Nat) (world : σ) : Except Fault String × List Chunk × σ :=
  match h : r.next? world with
  | none => (.ok "", [], world)
  | some heard =>
    have := r.size_next h
    if heard.number = number then
      match heard.news with
      | .ended result => (result, [], heard.world)
      | .chunk c =>
        let (result, chunks, world) := r.listen number heard.world
        (result, c :: chunks, world)
    else r.listen number heard.world
termination_by r.size world

/-- Execute an invocation to its end: its result, its chunks, and the world after it. -/
def execute (r : Runner σ) (inv : Invocation) (world : σ) : Except Fault String × List Chunk × σ :=
  r.listen 0 (r.start 0 inv world)

/-- What is seen of a command's output while it runs, if it does not go to a labeller. -/
def shown (capture : Capture) (chunks : List Chunk) : List Event :=
  match capture with
  | .streams => chunks.map .printed
  | .silent | .sink => []

/-- Execute an invocation to its end, with nothing else going on. -/
def perform (r : Runner σ) (inv : Invocation) (host : Host σ) :
    Except Fault String × List Event × Host σ :=
  let (result, chunks, world) := r.execute inv host.world
  let trace := .started inv :: shown inv.capture chunks ++
    [.completed inv.command, .answered inv result]
  (result, trace, { host with world })

/-- Showing output calls nothing and answers nothing. -/
theorem filterMap_shown {f : Event → Option β} (hf : ∀ chunk, f (.printed chunk) = none)
    (capture : Capture) (chunks : List Chunk) : (shown capture chunks).filterMap f = [] := by
  cases capture <;> simp [shown, List.filterMap_map, hf]

/-- An execution makes one call, and this one is answered. -/
theorem calls_perform (r : Runner σ) (inv : Invocation) (host : Host σ) :
    Event.calls (r.perform inv host).2.1 = [inv] := by
  have hshown := filterMap_shown (f := Event.call?) (fun _ => rfl) inv.capture
    (r.execute inv host.world).2.1
  simp only [perform, Event.calls, List.cons_append, List.filterMap_cons, List.filterMap_append,
    hshown, Event.call?, List.nil_append, List.filterMap_nil]

theorem answers_perform (r : Runner σ) (inv : Invocation) (host : Host σ) :
    Event.answers (r.perform inv host).2.1 = [(inv, (r.perform inv host).1)] := by
  have hshown := filterMap_shown (f := Event.answer?) (fun _ => rfl) inv.capture
    (r.execute inv host.world).2.1
  simp only [perform, Event.answers, List.cons_append, List.filterMap_cons, List.filterMap_append,
    hshown, Event.answer?, List.nil_append, List.filterMap_nil]

end Runner

end Ensemble
