/-!
# Ensemble.Shell.Field

**Fields**: what a word comes to when it is spelled out and cut at the separators. A word is spelled
out in `Cell`s, which remember what stands for itself and what may be a separator. A quotation mark is
a cell too, so that a field can be empty.
-/

namespace Ensemble.Shell

/-- A part of a word that is spelled out. -/
inductive Cell
  /-- A character: does it stand for itself in patterns, and can it be a separator? -/
  | char (c : Char) (literal splits : Bool)
  /-- A quotation mark. -/
  | mark
  /-- The beginning of a value; separators before it and in it are counted by themselves. -/
  | seam
  /-- A separator of its own, which counts as a blank. -/
  | gap
  /-- The boundary between two fields. -/
  | cut
  /-- No values at all: quotation marks around it are no field. -/
  | void
deriving DecidableEq, Repr

namespace Field

/-- A separator of which several count as one. -/
def isWhite (c : Char) : Bool :=
  c == ' ' || c == '\t' || c == '\n'

/-- What a cell is to a cut at separators. -/
inductive Role
  | part
  | white
  | other
deriving DecidableEq, Repr

def role (ifs : List Char) : Cell → Role
  | .char c _ true => if ifs.contains c then (if isWhite c then .white else .other) else .part
  | .gap => .white
  | _ => .part

/-- Cut cells into fields. `current` is the field that is read, its last cell first. `behind` tells that a
separator has ended a field, and whether one that is not white may still follow it. -/
def split (ifs : List Char) : List Cell → Option Bool → List Cell → List (List Cell)
  | current, _, [] => if current.isEmpty then [] else [current.reverse]
  | current, _, .cut :: cells => current.reverse :: split ifs [] none cells
  | current, _, .seam :: cells => split ifs current none cells
  | current, behind, cell :: cells =>
    match role ifs cell, behind with
    | .part, _ => split ifs (cell :: current) none cells
    | .white, some more => split ifs current (some more) cells
    | .other, some true => split ifs current (some false) cells
    | .white, none =>
      if current.isEmpty then split ifs current none cells
      else current.reverse :: split ifs [] (some true) cells
    | .other, _ => current.reverse :: split ifs [] (some false) cells

/-- Cells without those that stand for no values, and without the quotation marks around these. -/
def filled : List Cell → List Cell
  | .mark :: .void :: .mark :: cells => filled cells
  | .mark :: .void :: .void :: cells => filled (.mark :: .void :: cells)
  | .void :: cells => filled cells
  | cell :: cells => cell :: filled cells
  | [] => []
termination_by cells => cells.length

/-- The fields of cells. -/
def ofCells (ifs : List Char) (cells : List Cell) : List (List Cell) :=
  split ifs [] none (if cells.contains .void then filled cells else cells)

/-- The text of cells. -/
def text (cells : List Cell) : List Char :=
  cells.filterMap fun
    | .char c _ _ => some c
    | .gap | .cut => some ' '
    | _ => none

/-- The pattern of cells, in which what stands for itself is protected. -/
def pattern (cells : List Cell) : List Char :=
  cells.flatMap fun
    | .char c true _ => ['\x5c', c]
    | .char c false _ => [c]
    | .gap | .cut => [' ']
    | _ => []

/-- Cells in which nothing separates are one field. -/
theorem split_of_parts (ifs : List Char) (cells current : List Cell) (behind : Option Bool)
    (h : ∀ c ∈ cells, role ifs c = .part ∧ c ≠ .cut ∧ c ≠ .seam) (hne : cells ≠ [] ∨ current ≠ []) :
    split ifs current behind cells = [current.reverse ++ cells] := by
  induction cells generalizing current behind with
  | nil =>
      have : current ≠ [] := by simpa using hne
      simp [split, this]
  | cons c cells ih =>
      obtain ⟨hr, hc, hs⟩ := h c (by simp)
      have ih := ih (c :: current) none (fun x hx => h x (by simp [hx])) (by simp)
      cases c <;> simp_all [split]

end Field

end Ensemble.Shell
