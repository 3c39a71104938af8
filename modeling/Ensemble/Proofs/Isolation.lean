import Ensemble.Proofs.Labelling
import Ensemble.Proofs.RunRecord
import Ensemble.ScriptedRunner

/-!
# Ensemble.Proofs.Isolation

**No worker of the run phase disturbs another.** If what a command prints and answers depends on the
invocation alone, then so does everything that a worker does: its share of the record is its
*account* (`Worker.account`), whatever the other workers do and in whichever order all of them are
heard of. In particular it is the share it would have without the others, which is the main result
for scripted runners (`scriptedRunner_isolated`).

The runner is seen through what is *due* for a number: all that will still be heard of its command.
A worker's stage and what is due to it fix the rest of its account (`Worker.Remains`), and one turn
takes from the front what it adds to the share.
-/

namespace Ensemble

/-! ### Runners that answer by the invocation -/

/-- A runner from which the same is heard of an invocation whenever it is started: some chunks and a
result. `due` is what will still be heard of the command of a number. -/
structure Runner.Answers (r : Runner σ) (due : σ → Nat → List News)
    (chunks : Invocation → List Chunk) (answer : Invocation → Except Fault String) : Prop
    extends r.Separates due where
  start_self : ∀ {world number} (inv : Invocation), due world number = [] →
    due (r.start number inv world) number = (chunks inv).map .chunk ++ [.ended (answer inv)]
  next_self : ∀ {world heard}, r.next? world = some heard →
    due world heard.number = heard.news :: due heard.world heard.number
  next_none : ∀ {world number}, r.next? world = none → due world number = []

/-- What will be heard of an appointment. -/
def Appointment.news (a : Appointment) : List News :=
  (a.chunk?.map .chunk).toList ++ [.ended a.result]

namespace Agenda

/-- The appointments of a number. -/
def ofNumber (number : Nat) (appointments : List Appointment) : List Appointment :=
  appointments.filter (·.number = number)

/-- What will still be heard of the command of a number. -/
def due (g : Agenda) (number : Nat) : List News :=
  (ofNumber number g.appointments).flatMap Appointment.news

theorem mem_ofNumber {a : Appointment} {number : Nat} {appointments : List Appointment} :
    a ∈ ofNumber number appointments ↔ a ∈ appointments ∧ a.number = number := by
  simp [ofNumber]

theorem ofNumber_eq_nil_of_due {g : Agenda} {number : Nat} (h : g.due number = []) :
    ofNumber number g.appointments = [] := by
  refine List.eq_nil_iff_forall_not_mem.mpr fun a ha => ?_
  have := List.flatMap_eq_nil_iff.mp h a ha
  simp [Appointment.news] at this

theorem ofNumber_insert_of_ne {a : Appointment} {number : Nat} (h : a.number ≠ number)
    (others : List Appointment) : ofNumber number (insert a others) = ofNumber number others := by
  induction others with
  | nil => simp [insert, ofNumber, h]
  | cons b others ih =>
      unfold insert
      split
      · simp only [ofNumber, List.filter_cons] at ih ⊢
        rw [ih]
      · simp [ofNumber, h]

theorem ofNumber_insert_self {a : Appointment} {others : List Appointment}
    (h : ofNumber a.number others = []) : ofNumber a.number (insert a others) = [a] := by
  induction others with
  | nil => simp [insert, ofNumber]
  | cons b others ih =>
      have hb : b.number ≠ a.number := by
        intro hb
        simp [ofNumber, hb] at h
      have hothers : ofNumber a.number others = [] := by simpa [ofNumber, hb] using h
      unfold insert
      split
      · simpa [ofNumber, hb] using ih hothers
      · simpa [ofNumber, hb] using hothers

theorem ofNumber_note_of_ne (g : Agenda) {a : Appointment} {number : Nat} (h : a.number ≠ number) :
    ofNumber number (g.note a).appointments = ofNumber number g.appointments := by
  unfold note
  dsimp only
  split
  · simp [ofNumber, h]
  · exact ofNumber_insert_of_ne h _

theorem ofNumber_note_self {g : Agenda} {a : Appointment}
    (h : ofNumber a.number g.appointments = []) :
    ofNumber a.number (g.note a).appointments = [a] := by
  unfold note
  dsimp only
  split
  · rw [ofNumber, List.filter_cons_of_pos (by simp), ← ofNumber, h]
  · exact ofNumber_insert_self h

theorem due_note_self {g : Agenda} {a : Appointment} (h : g.due a.number = []) :
    (g.note a).due a.number = a.news := by
  rw [due, ofNumber_note_self (ofNumber_eq_nil_of_due h), List.flatMap_singleton]

/-- What comes next is the first that is due to its number. -/
theorem due_of_next? {g : Agenda} {heard : Heard Agenda} (h : g.next? = some heard) :
    g.due heard.number = heard.news :: Agenda.due heard.world heard.number := by
  obtain ⟨a, others, ha, hheard, ⟨c, hchunk, hnews, hothers⟩ | ⟨hchunk, hnews, hothers⟩⟩ :=
    cases_of_next? h
  all_goals simp [due, ofNumber, ha, hheard, hnews, hothers, Appointment.news, hchunk]

end Agenda

/-- The appointments of a scripted runner are held for each number apart. -/
theorem scriptedRunner_separates (scripts : List Script) :
    (scriptedRunner scripts).Separates fun g number => Agenda.ofNumber number g.appointments where
  start_other := fun _ hne => Agenda.ofNumber_note_of_ne _ hne
  next_other := by
    intro world heard other hnext hne
    obtain ⟨a, others, ha, hnumber, ⟨_, _, _, happs⟩ | ⟨_, _, happs⟩⟩ :=
      Agenda.cases_of_next? hnext
    all_goals
      rw [hnumber] at hne
      simp [Agenda.ofNumber, ha, happs, hne]

/-- A scripted runner answers by its scripts. -/
theorem scriptedRunner_answers (scripts : List Script) :
    (scriptedRunner scripts).Answers Agenda.due
      (fun inv => ((Script.find scripts inv.command).chunk? inv).toList)
      (fun inv => (Script.find scripts inv.command).result inv.command) where
  start_other := fun inv hne => congrArg (List.flatMap Appointment.news)
    ((scriptedRunner_separates scripts).start_other inv hne)
  next_other := fun hnext hne => congrArg (List.flatMap Appointment.news)
    ((scriptedRunner_separates scripts).next_other hnext hne)
  start_self := by
    intro world number inv hidle
    refine (Agenda.due_note_self hidle).trans ?_
    cases hchunk : (Script.find scripts inv.command).chunk? inv <;> simp [Appointment.news]
  next_self := Agenda.due_of_next?
  next_none := by
    intro world number hnext
    simp [Agenda.due, Agenda.ofNumber, Agenda.appointments_of_next? hnext]

/-! ### Output on a console that never refuses -/

namespace Labeller

/-- The lines of some output as they are told, the last one whether or not it was ended. -/
def labelledLines (tag : String) (output : Text.Bytes) : List Event :=
  (closedLines (completeLines output)).map fun line => .labelled (lineBytes tag line)

/-- What is passed on at once and what is passed on later are the lines of both together. -/
theorem labelledLines_append (tag : String) (bytes later : Text.Bytes) :
    labelledLines tag (bytes ++ later) =
      ((completeLines bytes).1.map fun line => .labelled (lineBytes tag line)) ++
        labelledLines tag ((completeLines bytes).2 ++ later) := by
  -- Cutting at once and cutting in two goes are cuts of the same bytes.
  obtain ⟨hlines, hrest⟩ := ((isCut_completeLines bytes).append (isCut_completeLines _)).unique
    (isCut_completeLines (bytes ++ later))
  simp [labelledLines, closedLines, ← hlines, ← hrest]

/-- What is held back is one line, if there is any. -/
theorem labelledLines_of_not_mem (tag : String) {bytes : Text.Bytes} (h : Text.lineFeed ∉ bytes) :
    labelledLines tag bytes =
      (if bytes = [] then [] else [bytes]).map fun line => .labelled (lineBytes tag line) := by
  have hcut : Text.IsCut Text.lineFeed bytes [] bytes := ⟨rfl, by simp, h⟩
  obtain ⟨hlines, hrest⟩ := (isCut_completeLines bytes).unique hcut
  simp [labelledLines, closedLines, hlines, hrest]

end Labeller

namespace Worker

/-- A console that grants lines tells them. -/
theorem told_granting (tag : String) (lines : List Text.Bytes) (console : Console) :
    told console (console.granting (Labeller.requests tag lines)) (.ok ()) =
      lines.map fun line => .labelled (Labeller.lineBytes tag line) := by
  simp [told, Console.storedSince, Console.granting]

variable {host : Host σ} (hc : host.console.NeverRefuses)

include hc

theorem passOn_of_neverRefuses (r : Runner σ) (c : Component) (inv : Invocation) (l : Labeller)
    (chunk : Chunk) :
    ∃ console : Console, console.NeverRefuses ∧ passOn r c inv l chunk host =
      ⟨.running inv { l with pending := (Labeller.completeLines (l.pending ++ chunk.bytes)).2 },
        (Labeller.completeLines (l.pending ++ chunk.bytes)).1.map
          fun line => .labelled (Labeller.lineBytes l.tag line),
        { host with console }, none⟩ := by
  refine ⟨_, hc.granting (Labeller.requests l.tag
    (Labeller.completeLines (l.pending ++ chunk.bytes)).1), ?_⟩
  simp only [passOn, Sink.labelled, Labeller.write, Labeller.passOn_eq_serveAll,
    Console.serveAll_of_neverRefuses hc, Except.map, told_granting]

theorem finish_of_neverRefuses (r : Runner σ) (c : Component) (inv : Invocation) (l : Labeller)
    (result : Except Fault String) :
    ∃ console : Console, console.NeverRefuses ∧ finish r c inv l result host =
      ⟨.done, ((if l.pending = [] then [] else [l.pending]).map
            fun line => .labelled (Labeller.lineBytes l.tag line)) ++
          [.completed inv.command, .answered inv result],
        { host with console }, some ⟨c.name, verdict c result⟩⟩ := by
  refine ⟨_, hc.granting (Labeller.requests l.tag
    (if l.pending = [] then [] else [l.pending])), ?_⟩
  simp only [finish, Sink.labelled, Labeller.finish, Labeller.passOn_eq_serveAll,
    Console.serveAll_of_neverRefuses hc, told_granting]

/-- A worker's turn leaves a console that never refuses. -/
theorem neverRefuses_hear (r : Runner σ) (p : Project) (number : Nat) (w : Worker) (news : News) :
    (w.hear r p number news host).host.console.NeverRefuses := by
  obtain ⟨c, stage⟩ := w
  unfold hear
  split
  · unfold startRun
    split
    · exact hc
    · split <;> exact hc
  · rename_i inv l chunk _
    obtain ⟨console, hconsole, heq⟩ := passOn_of_neverRefuses hc r c inv l chunk
    exact heq ▸ hconsole
  · rename_i inv l result _
    obtain ⟨console, hconsole, heq⟩ := finish_of_neverRefuses hc r c inv l result
    exact heq ▸ hconsole
  · exact hc

end Worker

/-- So does every step of the phase. -/
theorem RunPhase.Steps.neverRefuses {r : Runner σ} {p : Project} {s s' : State σ}
    {turn? : Option Entry} (h : Steps r p s turn? s') (hc : s.host.console.NeverRefuses) :
    s'.host.console.NeverRefuses := by
  cases h with
  | begins hw => exact hc
  | @hears heard w hnext hw =>
      have hc' : { s.host with world := heard.world }.console.NeverRefuses := hc
      exact Worker.neverRefuses_hear hc' r p heard.number w heard.news
  | passesOver hnext hnone => exact hc

/-! ### The account of a worker -/

namespace Worker

section

variable (p : Project) (c : Component) (chunks : Invocation → List Chunk)
  (answer : Invocation → Except Fault String)

/-- All that a worker does, told by what its two calls print and answer: it makes the environment
call, and if that succeeds, after its completion the run call. -/
def account : List Event :=
  let env := p.envInvocation c
  [.began .run c.name, .started env, .completed env.command, .answered env (answer env)] ++
    match answer env with
    | .error _ => []
    | .ok printed =>
      let run := p.runInvocation c printed
      .started run ::
        Labeller.labelledLines (Labeller.tagOf c.name p.options.labelWidth)
          ((chunks run).flatMap (·.bytes)) ++
        [.completed run.command, .answered run (answer run)]

/-- What becomes of a worker. -/
def outcome : Except Failure Unit :=
  match answer (p.envInvocation c) with
  | .error fault => .error (envFailure c fault)
  | .ok printed => verdict c (answer (p.runInvocation c printed))

/-- What a worker still does, told by its stage and by what is due to it. -/
def Remains (stage : Stage) (due : List News) (entries : List RunPhase.Entry) : Prop :=
  match stage with
  | .waiting => due = [] →
    RunPhase.deeds entries = account p c chunks answer ∧
      RunPhase.farewells entries = [⟨c.name, outcome p c answer⟩]
  | .asking => ∀ later : List Chunk,
    due = later.map .chunk ++ [.ended (answer (p.envInvocation c))] →
    [.began .run c.name, .started (p.envInvocation c)] ++ RunPhase.deeds entries =
        account p c chunks answer ∧
      RunPhase.farewells entries = [⟨c.name, outcome p c answer⟩]
  | .running inv l => ∀ (later : List Chunk) (result : Except Fault String),
    Text.lineFeed ∉ l.pending → due = later.map .chunk ++ [.ended result] →
    RunPhase.deeds entries =
        Labeller.labelledLines l.tag (l.pending ++ later.flatMap (·.bytes)) ++
          [.completed inv.command, .answered inv result] ∧
      RunPhase.farewells entries = [⟨c.name, verdict c result⟩]
  | .done => due = [] → RunPhase.deeds entries = [] ∧ RunPhase.farewells entries = []

end

/-- What is due at least ends with a result, so it is not over before that is heard. -/
theorem due_cases {later : List Chunk} {result : Except Fault String} {news : News}
    {due : List News} (h : news :: due = later.map .chunk ++ [.ended result]) :
    (∃ chunk later', later = chunk :: later' ∧ news = .chunk chunk ∧
        due = later'.map .chunk ++ [.ended result]) ∨
      later = [] ∧ news = .ended result ∧ due = [] := by
  cases later with
  | nil =>
      obtain ⟨rfl, rfl⟩ := List.cons.inj h
      exact .inr ⟨rfl, rfl, rfl⟩
  | cons chunk later =>
      obtain ⟨rfl, rfl⟩ := List.cons.inj h
      exact .inl ⟨chunk, later, rfl, rfl, rfl⟩

variable {r : Runner σ} {p : Project} {c : Component} {due : σ → Nat → List News}
  {chunks : Invocation → List Chunk} {answer : Invocation → Except Fault String}

/-- When nothing more is heard, nothing remains. -/
theorem remains_nil {stage : Stage} (h : stage ≠ .waiting) :
    Remains p c chunks answer stage [] [] := by
  cases stage with
  | waiting => exact absurd rfl h
  | asking => simp [Remains]
  | running inv l => simp [Remains]
  | done => exact fun _ => ⟨rfl, rfl⟩

/-- A worker that begins adds its environment call to what remains. -/
theorem remains_waiting (hr : r.Answers due chunks answer) {number : Nat} {host : Host σ}
    {entries : List RunPhase.Entry}
    (h : Remains p c chunks answer .asking
      (due (askEnv r p number c host).host.world number) entries) :
    Remains p c chunks answer .waiting (due host.world number)
      (⟨number, (askEnv r p number c host).trace, none⟩ :: entries) := by
  intro hidle
  exact h (chunks (p.envInvocation c)) (hr.start_self _ hidle)

/-- A worker that is heard of adds what it does in this turn to what remains. -/
theorem remains_hear (hr : r.Answers due chunks answer)
    (hwidth : p.options.labelWidth ≤ maxLabelWidth) {number : Nat} {host : Host σ}
    (hc : host.console.NeverRefuses) {stage : Stage} {news : News} {entries : List RunPhase.Entry}
    {turn : Turn σ} (hturn : hear r p number ⟨c, stage⟩ news host = turn)
    (h : Remains p c chunks answer turn.stage (due turn.host.world number) entries) :
    Remains p c chunks answer stage (news :: due host.world number)
      (⟨number, turn.trace, turn.farewell?⟩ :: entries) := by
  cases stage with
  | waiting => exact fun hidle => absurd hidle (by simp)
  | done => exact fun hidle => absurd hidle (by simp)
  | asking =>
      intro later hdue
      rcases due_cases hdue with ⟨chunk, later, rfl, rfl, hrest⟩ | ⟨rfl, rfl, hrest⟩
      · -- What is printed before the environment is complete is not passed on.
        obtain rfl := hturn
        exact h later hrest
      · cases hanswer : answer (p.envInvocation c) with
        | error fault =>
            rw [hanswer] at hturn
            obtain rfl := hturn
            obtain ⟨hdeeds, hends⟩ := h hrest
            simp [hear, startRun, hdeeds, hends, account, outcome, hanswer]
        | ok printed =>
            rw [hanswer] at hturn
            obtain rfl := (startRun_ok hwidth r number c printed host).symm.trans hturn
            obtain ⟨hdeeds, hends⟩ := h _ _ (by simp) (hr.start_self _ hrest)
            simp [hdeeds, hends, account, outcome, hanswer]
  | running inv l =>
      intro later result hpending hdue
      rcases due_cases hdue with ⟨chunk, later, rfl, rfl, hrest⟩ | ⟨rfl, rfl, hrest⟩
      · obtain ⟨console, -, hpassed⟩ := passOn_of_neverRefuses hc r c inv l chunk
        obtain rfl := hpassed.symm.trans hturn
        obtain ⟨hdeeds, hends⟩ := h later result (Labeller.isCut_completeLines _).not_mem_rest hrest
        refine ⟨?_, by simp [hends]⟩
        rw [List.flatMap_cons, ← List.append_assoc, Labeller.labelledLines_append]
        simp [hdeeds]
      · obtain ⟨console, -, hfinished⟩ := finish_of_neverRefuses hc r c inv l result
        obtain rfl := hfinished.symm.trans hturn
        obtain ⟨hdeeds, hends⟩ := h hrest
        simp [hdeeds, hends, Labeller.labelledLines_of_not_mem _ hpending]

/-- **The share of a worker is its account**, as far as it remains, whatever the others do. -/
theorem remains_share (hr : r.Answers due chunks answer)
    (hwidth : p.options.labelWidth ≤ maxLabelWidth) {s : RunPhase.State σ}
    (hc : s.host.console.NeverRefuses) {number : Nat} {stage : Stage}
    (hw : s.workers[number]? = some ⟨c, stage⟩) :
    Remains p c chunks answer stage (due s.host.world number)
      (RunPhase.share number (RunPhase.record r p s).1) := by
  refine RunPhase.share_induction hr.toSeparates (fun h hc => h.neverRefuses hc) ?_ ?_ ?_ hc hw
  · intro world stage hnext hstage
    rw [hr.next_none hnext]
    exact remains_nil hstage
  · intro s entries _ turn h
    exact remains_waiting hr h
  · intro s stage heard entries hc hnext hnumber turn h
    have hdue := hr.next_self hnext
    rw [hnumber] at hdue
    rw [hdue]
    have hc' : { s.host with world := heard.world }.console.NeverRefuses := hc
    exact remains_hear hr hwidth hc' rfl h

end Worker

/-! ### The whole phase -/

/-- The project with one of its includes, and nothing else but its overrides. -/
def Project.only (p : Project) (i : Include) : Project :=
  { p with descriptor := { p.descriptor with checks := [], includes := [i] } }

namespace Worker

/-- Passing on output calls nothing and completes nothing. -/
theorem filterMap_labelledLines {f : Event → Option β} (hf : ∀ line, f (.labelled line) = none)
    (tag : String) (output : Text.Bytes) :
    (Labeller.labelledLines tag output).filterMap f = [] := by
  simp [Labeller.labelledLines, List.filterMap_map, hf]

/-- The calls of an account: the environment call, and the run call if that succeeds. -/
theorem calls_account (p : Project) (c : Component) (chunks : Invocation → List Chunk)
    (answer : Invocation → Except Fault String) :
    Event.calls (account p c chunks answer) = p.envInvocation c ::
      match answer (p.envInvocation c) with
      | .ok printed => [p.runInvocation c printed]
      | .error _ => [] := by
  cases hanswer : answer (p.envInvocation c) with
  | error fault => simp [account, hanswer, Event.calls, Event.call?, List.filterMap_cons]
  | ok printed =>
      have hlines := filterMap_labelledLines (f := Event.call?) (fun _ => rfl)
        (Labeller.tagOf c.name p.options.labelWidth)
        ((chunks (p.runInvocation c printed)).flatMap (·.bytes))
      simp [account, hanswer, Event.calls, Event.call?, List.filterMap_cons, hlines]

/-- Every call of an account is completed in it. -/
theorem completions_account (p : Project) (c : Component) (chunks : Invocation → List Chunk)
    (answer : Invocation → Except Fault String) :
    Event.completions (account p c chunks answer) =
      (Event.calls (account p c chunks answer)).map (·.command) := by
  rw [calls_account]
  cases hanswer : answer (p.envInvocation c) with
  | error fault => simp [account, hanswer, Event.completions, Event.completed?, List.filterMap_cons]
  | ok printed =>
      have hlines := filterMap_labelledLines (f := Event.completed?) (fun _ => rfl)
        (Labeller.tagOf c.name p.options.labelWidth)
        ((chunks (p.runInvocation c printed)).flatMap (·.bytes))
      simp [account, hanswer, Event.completions, Event.completed?, List.filterMap_cons, hlines]

end Worker

namespace RunPhase

/-- **Isolation** of the workers in a phase whose commands print `chunks` and end with `answer`. -/
structure Isolated (r : Runner σ) (p : Project) (host : Host σ) (chunks : Invocation → List Chunk)
    (answer : Invocation → Except Fault String) : Prop where
  /-- The trace consists of turns, and what is told of the ends of workers. -/
  trace_eq : (runAll r p host).trace = tell false (turns r p host)
  /-- The result is the first failure with which a worker ends. -/
  result_eq : (runAll r p host).result = verdict (turns r p host)
  /-- Each turn is that of an include's worker. -/
  number_lt : ∀ e ∈ turns r p host, e.number < p.descriptor.includes.length
  /-- Every call that was started has been completed. -/
  completed : (Event.completions (runAll r p host).trace).Perm
    ((Event.calls (runAll r p host).trace).map (·.command))
  /-- The console has stored the lines that are told. -/
  console_eq : (runAll r p host).host.console.bytes =
    host.console.bytes ++ Event.consoleBytes (runAll r p host).trace
  /-- A worker's share stands in the trace in its order and is its account: one environment call,
  and if that succeeds, after its completion, one run call. Its end is the outcome of the two. -/
  share_eq : ∀ {number i}, p.descriptor.includes[number]? = some i →
    let c := Component.ofInclude i p.descriptor.baseDir p.options.binRoot
    let own := share number (turns r p host)
    (deeds own).Sublist (runAll r p host).trace ∧
      deeds own = Worker.account p c chunks answer ∧
      (Event.calls (deeds own) = p.envInvocation c ::
        match answer (p.envInvocation c) with
        | .ok printed => [p.runInvocation c printed]
        | .error _ => []) ∧
      farewells own = [⟨c.name, Worker.outcome p c answer⟩]
  /-- Its calls, its output and its end are those of the phase with its include alone. -/
  alone : ∀ {number i}, p.descriptor.includes[number]? = some i →
    let c := Component.ofInclude i p.descriptor.baseDir p.options.binRoot
    let own := share number (turns r p host)
    let alone := runAll r (p.only i) host
    Event.calls (deeds own) = Event.calls alone.trace ∧
      Event.consoleBytes (deeds own) = Event.consoleBytes alone.trace ∧
      farewells own = [⟨c.name, alone.result⟩]

variable {r : Runner σ} {p : Project} {host : Host σ} {due : σ → Nat → List News}
  {chunks : Invocation → List Chunk} {answer : Invocation → Except Fault String}

/-- Every worker gives its whole account. -/
theorem share_turns (hr : r.Answers due chunks answer)
    (hwidth : p.options.labelWidth ≤ maxLabelWidth) (hc : host.console.NeverRefuses)
    (hidle : ∀ number, due host.world number = []) {number : Nat} {i : Include}
    (h : p.descriptor.includes[number]? = some i) :
    let c := Component.ofInclude i p.descriptor.baseDir p.options.binRoot
    deeds (share number (turns r p host)) = Worker.account p c chunks answer ∧
      farewells (share number (turns r p host)) = [⟨c.name, Worker.outcome p c answer⟩] := by
  intro c
  have hw : (State.start p host).workers[number]? = some ⟨c, .waiting⟩ :=
    getElem?_start host (by simp [Project.components, h, c])
  have hc' : (State.start p host).host.console.NeverRefuses := hc
  exact Worker.remains_share hr hwidth hc' hw (hidle number)

/-- A worker that is alone has all turns. -/
theorem share_zero_of_length {s : State σ} (h : s.workers.length = 1) :
    share 0 (record r p s).1 = (record r p s).1 := by
  refine List.filter_eq_self.mpr fun e he => ?_
  have := number_lt_of_mem_record e he
  simp only [decide_eq_true_eq]
  omega

/-- If every share completes its calls, so does the whole phase. -/
theorem perm_completions {entries : List Entry} {n : Nat} (h : ∀ e ∈ entries, e.number < n)
    (hshares : ∀ number < n, Event.completions (deeds (share number entries)) =
      (Event.calls (deeds (share number entries))).map (·.command)) :
    (Event.completions (deeds entries)).Perm ((Event.calls (deeds entries)).map (·.command)) := by
  -- The two agree share by share, and shares are put together alike on both sides.
  have hcalls := (perm_filterMap_deeds Event.call? h).map (·.command)
  have hcompletions := perm_filterMap_deeds Event.completed? h
  rw [List.map_flatMap] at hcalls
  refine hcompletions.symm.trans (.trans (.of_eq ?_) hcalls)
  exact List.flatMap_congr fun number hnumber => hshares number (List.mem_range.mp hnumber)

/-- Workers are isolated if what their commands print and answer depends on the invocations
alone. -/
theorem isolated_of_answers (hr : r.Answers due chunks answer)
    (hwidth : p.options.labelWidth ≤ maxLabelWidth) (hc : host.console.NeverRefuses)
    (hidle : ∀ number, due host.world number = []) : Isolated r p host chunks answer := by
  refine ⟨rfl, rfl, number_lt_of_mem_turns, ?_, ?_, ?_, ?_⟩
  · have hperm := perm_completions number_lt_of_mem_turns fun number hnumber => by
      rw [(share_turns hr hwidth hc hidle (List.getElem?_eq_getElem hnumber)).1]
      exact Worker.completions_account ..
    rwa [← completions_tell false, ← calls_tell false] at hperm
  · rw [bytes_runAll]
    exact congrArg _ (consoleBytes_tell false (turns r p host)).symm
  · intro number i hi c own
    obtain ⟨hdeeds, hends⟩ := share_turns hr hwidth hc hidle hi
    refine ⟨?_, hdeeds, ?_, hends⟩
    · exact (deeds_share_sublist number _).trans (deeds_sublist_tell false _)
    · exact (congrArg Event.calls hdeeds).trans (Worker.calls_account p c chunks answer)
  · intro number i hi c own alone
    obtain ⟨hdeeds, hends⟩ := share_turns hr hwidth hc hidle hi
    -- Alone the worker has the same account, and then its account is the whole phase.
    have hi' : (p.only i).descriptor.includes[0]? = some i := rfl
    obtain ⟨hdeeds', hends'⟩ := share_turns (p := p.only i) hr hwidth hc hidle hi'
    have hall : share 0 (turns r (p.only i) host) = turns r (p.only i) host :=
      share_zero_of_length rfl
    rw [hall] at hdeeds' hends'
    have hsame : deeds own = deeds (turns r (p.only i) host) := hdeeds.trans hdeeds'.symm
    have hresult : alone.result = Worker.outcome p c answer := verdict_of_farewells hends'
    refine ⟨?_, ?_, ?_⟩
    · rw [hsame]
      exact (calls_tell ..).symm
    · rw [hsame]
      exact (consoleBytes_tell ..).symm
    · rw [hresult]
      exact hends

end RunPhase

/-- **Isolation of run workers.** Whatever the scripts make commands print and answer, and however
long they delay them, no worker disturbs another. -/
theorem scriptedRunner_isolated (scripts : List Script) (p : Project)
    (hwidth : p.options.labelWidth ≤ maxLabelWidth) (host : Host Agenda)
    (hidle : host.world.appointments = []) (hc : host.console.NeverRefuses) :
    RunPhase.Isolated (scriptedRunner scripts) p host
      (fun inv => ((Script.find scripts inv.command).chunk? inv).toList)
      (fun inv => (Script.find scripts inv.command).result inv.command) := by
  refine RunPhase.isolated_of_answers (scriptedRunner_answers scripts) hwidth hc fun number => ?_
  simp [Agenda.due, Agenda.ofNumber, hidle]

/-- Two components, of which the first prints no environment and the second is slow. -/
theorem scriptedRunner_isolated_from_failing_env :
    let p : Project :=
      { descriptor := ⟨[], [⟨⟨"a/a.mk"⟩, none⟩, ⟨⟨"b/b.mk"⟩, none⟩], [], ⟨"/project/build.mk"⟩⟩
        options := ⟨"make", ⟨"/project/bin"⟩, "DEST", 12⟩ }
    let scripts : List Script :=
      [{ needle := "a.mk env", reply := .fails (some 2) },
        { needle := "b.mk run", output := "up", delay := 3 }]
    let host : Host Agenda := ⟨{}, .sound⟩
    p.options.labelWidth ≤ maxLabelWidth ∧ host.world.appointments = [] ∧
      host.console.NeverRefuses ∧
      RunPhase.Isolated (scriptedRunner scripts) p host
        (fun inv => ((Script.find scripts inv.command).chunk? inv).toList)
        (fun inv => (Script.find scripts inv.command).result inv.command) := by
  intro p scripts host
  have hwidth : p.options.labelWidth ≤ maxLabelWidth := by decide
  exact ⟨hwidth, rfl, Console.neverRefuses_sound,
    scriptedRunner_isolated scripts p hwidth host rfl Console.neverRefuses_sound⟩

end Ensemble
