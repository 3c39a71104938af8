import Ensemble.Fault
import Ensemble.Text.Utf8

/-!
# Ensemble.Console

A **console**: a writer that keeps what is written to it, one entry for each write, and that may
refuse. Which writes and flushes it refuses is part of it and is told by their numbers, so a run
can be repeated with a console that fails at any chosen moment. A refused write stores nothing; a
refused flush takes nothing back.
-/

namespace Ensemble

/-- A writer that may refuse. -/
structure Console where
  /-- Is the write with this number refused? -/
  refusesWrite : Nat → Bool
  /-- Is the flush with this number refused? -/
  refusesFlush : Nat → Bool
  /-- Writes so far, the refused ones too. -/
  writes : Nat
  /-- Flushes so far, the refused ones too. -/
  flushes : Nat
  /-- What each write stored, in order. -/
  stored : List Text.Bytes

namespace Console

/-- A new console with chosen refusals. -/
def refusing (writes flushes : Nat → Bool) : Console :=
  ⟨writes, flushes, 0, 0, []⟩

/-- A new console that never refuses. -/
def sound : Console :=
  refusing (fun _ => false) (fun _ => false)

/-- Everything stored, as one sequence of bytes. -/
def bytes (c : Console) : Text.Bytes :=
  c.stored.flatten

def write (c : Console) (bytes : Text.Bytes) : Except IoFault Unit × Console :=
  if c.refusesWrite c.writes then
    (.error .writeRefused, { c with writes := c.writes + 1 })
  else
    (.ok (), { c with writes := c.writes + 1, stored := c.stored ++ [bytes] })

def flush (c : Console) : Except IoFault Unit × Console :=
  let c' := { c with flushes := c.flushes + 1 }
  if c.refusesFlush c.flushes then (.error .flushRefused, c') else (.ok (), c')

/-- What has been stored since an earlier state of the console. -/
def storedSince (c earlier : Console) : List Text.Bytes :=
  c.stored.drop earlier.stored.length

@[simp] theorem storedSince_self (c : Console) : c.storedSince c = [] := by
  simp [storedSince]

@[simp] theorem stored_flush (c : Console) : c.flush.2.stored = c.stored := by
  unfold flush
  split <;> rfl

/-- A write stores its bytes whole or not at all. -/
theorem stored_write (c : Console) (bytes : Text.Bytes) :
    (c.write bytes).2.stored = c.stored ++ (if c.refusesWrite c.writes then [] else [bytes]) := by
  unfold write
  split <;> simp

end Console

end Ensemble
