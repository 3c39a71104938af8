import Ensemble.Runner
import Ensemble.Text.Search

/-!
# Ensemble.ScriptedRunner

A **scripted runner** starts no process. It answers a command by the first of its scripts whose
needle occurs in the command, after that script's delay, and with nothing if there is none. Its
output goes to the console in one chunk at the end, and is shown nowhere else; a command whose
output the console refuses fails.

Its world is a clock and an agenda: the commands that are running, by the time at which they end. Of
two that end at the same time the one that has waited longer goes first, but a command that needs no
time goes before all others.
-/

namespace Ensemble

/-- How a scripted command ends. -/
inductive Reply
  | succeeds
  | fails (code : Option Int)
deriving DecidableEq, Repr

/-- An answer to every command in which the needle occurs. -/
structure Script where
  needle : String
  output : String := ""
  reply : Reply := .succeeds
  delay : Nat := 0
deriving DecidableEq, Repr

namespace Script

/-- The script that answers a command. -/
def find (scripts : List Script) (command : String) : Script :=
  (scripts.find? fun s => Text.contains command s.needle).getD { needle := "" }

/-- The result of a command that a script answers. -/
def result (s : Script) (command : String) : Except Fault String :=
  match s.reply with
  | .succeeds => .ok s.output
  | .fails code => .error (.commandFailed command code s.output)

/-- The output of an invocation that a script answers, as far as it is heard. -/
def chunk? (s : Script) (inv : Invocation) : Option Chunk :=
  if inv.capture = .sink then some ⟨.out, Text.Utf8.encode s.output⟩ else none

end Script

/-- A command that will end. -/
structure Appointment where
  number : Nat
  time : Nat
  /-- The output that comes with the end, if it has not been heard yet. -/
  chunk? : Option Chunk
  result : Except Fault String

/-- A clock, and the commands that are running. -/
structure Agenda where
  now : Nat := 0
  appointments : List Appointment := []

namespace Agenda

/-- Put an appointment behind all that come no later. -/
def insert (a : Appointment) : List Appointment → List Appointment
  | [] => [a]
  | b :: others => if b.time ≤ a.time then b :: insert a others else a :: b :: others

/-- Note an appointment: one that comes now goes before all others. -/
def note (g : Agenda) (a : Appointment) : Agenda :=
  { g with
    appointments :=
      if a.time ≤ g.now then a :: g.appointments else insert a g.appointments }

theorem mem_insert {a b : Appointment} {others : List Appointment} :
    b ∈ insert a others ↔ b = a ∨ b ∈ others := by
  induction others with
  | nil => simp [insert]
  | cons c others ih =>
      unfold insert
      split
      · rw [List.mem_cons, ih, List.mem_cons, or_left_comm]
      · exact List.mem_cons

theorem mem_note {g : Agenda} {a b : Appointment} :
    b ∈ (g.note a).appointments ↔ b = a ∨ b ∈ g.appointments := by
  unfold note
  dsimp only
  split
  · exact List.mem_cons
  · exact mem_insert

/-- Start an invocation that a script answers. -/
def start (scripts : List Script) (number : Nat) (inv : Invocation) (g : Agenda) : Agenda :=
  let s := Script.find scripts inv.command
  g.note ⟨number, g.now + s.delay, s.chunk? inv, s.result inv.command⟩

/-- The first appointment comes. -/
def next? (g : Agenda) : Option (Heard Agenda) :=
  match g.appointments with
  | [] => none
  | a :: others =>
    let now := max g.now a.time
    let atOnce := decide (a.time ≤ g.now)
    match a.chunk? with
    | some c => some ⟨a.number, .chunk c, atOnce, ⟨now, { a with chunk? := none } :: others⟩⟩
    | none => some ⟨a.number, .ended a.result, atOnce, ⟨now, others⟩⟩

/-- How often something will be heard of an appointment. -/
def weight (a : Appointment) : Nat :=
  if a.chunk?.isSome then 2 else 1

/-- How often something will be heard. -/
def size (g : Agenda) : Nat :=
  g.appointments.foldr (fun a n => weight a + n) 0

theorem size_next {g : Agenda} {heard : Heard Agenda} (h : g.next? = some heard) :
    heard.world.size < g.size := by
  unfold next? at h
  split at h
  · simp at h
  · rename_i a others ha
    dsimp only at h
    split at h <;> rename_i hc <;> cases h <;> simp [size, weight, ha, hc]

/-- Something is heard of the first appointment: its output, and then it waits on, or its end. -/
theorem cases_of_next? {g : Agenda} {heard : Heard Agenda} (h : g.next? = some heard) :
    ∃ a others, g.appointments = a :: others ∧ heard.number = a.number ∧
      ((∃ c, a.chunk? = some c ∧ heard.news = .chunk c ∧
          heard.world.appointments = { a with chunk? := none } :: others) ∨
        a.chunk? = none ∧ heard.news = .ended a.result ∧ heard.world.appointments = others) := by
  unfold next? at h
  split at h
  · cases h
  · rename_i a others ha
    dsimp only at h
    split at h <;> rename_i hchunk <;> cases h
    · exact ⟨a, others, ha, rfl, .inl ⟨_, hchunk, rfl, rfl⟩⟩
    · exact ⟨a, others, ha, rfl, .inr ⟨hchunk, rfl, rfl⟩⟩

/-- The clock goes on to the time of the first appointment, which comes at once if it is due. -/
theorem clock_of_next? {g : Agenda} {heard : Heard Agenda} {a : Appointment}
    {others : List Appointment} (ha : g.appointments = a :: others) (h : g.next? = some heard) :
    heard.world.now = max g.now a.time ∧ heard.atOnce = decide (a.time ≤ g.now) := by
  unfold next? at h
  rw [ha] at h
  dsimp only at h
  split at h <;> cases h <;> exact ⟨rfl, rfl⟩

/-- Nothing is heard only if nothing is running. -/
theorem appointments_of_next? {g : Agenda} (h : g.next? = none) : g.appointments = [] := by
  unfold next? at h
  split at h
  · assumption
  · dsimp only at h
    split at h <;> cases h

end Agenda

/-- The runner of some scripts. -/
def scriptedRunner (scripts : List Script) : Runner Agenda where
  start := Agenda.start scripts
  next? := Agenda.next?
  size := Agenda.size
  size_next := Agenda.size_next
  failsOnRefusal := true

end Ensemble
