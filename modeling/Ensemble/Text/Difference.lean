/-!
# Ensemble.Text.Difference

**How one row differs from another**: which elements have to go from the first and come from the second,
as few as possible. Elements are numbers; equal elements have equal numbers. A shortest way is looked for
from both ends at the same time, along diagonals, and it is taken apart where the ways meet. What has been
found is then moved as far behind as possible, so that changes lie together (`settled`).
-/

namespace Ensemble.Text

/-- Which elements of a row are changed. -/
abbrev Marks := Array Bool

/-- A change: from a place in each row, so many elements go and so many come. -/
structure Change where
  first : Nat
  second : Nat
  gone : Nat
  come : Nat
deriving DecidableEq, Repr

namespace Difference

/-! ### Meeting in the middle -/

/-- A part of both rows. -/
structure Part where
  low : Int
  high : Int
  lowOther : Int
  highOther : Int

/-- How far the ways along diagonals have come. The number of a diagonal is the place in the first row
less the one in the second. -/
structure Front where
  reached : Array Int
  least : Int
  most : Int

/-- Two rows. -/
structure Rows where
  first : Array Nat
  second : Array Nat

namespace Rows

def same (r : Rows) (x y : Int) : Bool :=
  match r.first[x.toNat]?, r.second[y.toNat]? with
  | some a, some b => a == b
  | _, _ => false

/-- The place of a diagonal among those of a front. -/
def index (r : Rows) (d : Int) : Nat :=
  (d + r.second.size + 1).toNat

def at? (r : Rows) (f : Front) (d : Int) : Int :=
  (f.reached[r.index d]?).getD (-1)

def reach (r : Rows) (f : Front) (d x : Int) : Front :=
  { f with reached := f.reached.setIfInBounds (r.index d) x }

/-- Go on along a diagonal as long as elements are the same. -/
def slide (r : Rows) (p : Part) : Nat → Int → Int → Int
  | 0, x, _ => x
  | fuel + 1, x, y =>
    if x < p.high && y < p.highOther && r.same x y then slide r p fuel (x + 1) (y + 1) else x

def slideBack (r : Rows) (p : Part) : Nat → Int → Int → Int
  | 0, x, _ => x
  | fuel + 1, x, y =>
    if p.low < x && p.lowOther < y && r.same (x - 1) (y - 1) then slideBack r p fuel (x - 1) (y - 1)
    else x

/-- The steps that a way can have. -/
def steps (r : Rows) : Nat :=
  r.first.size + r.second.size + 2

/-- The diagonals of a front, the highest first. -/
def diagonals (f : Front) : List Int :=
  if f.most < f.least then []
  else (List.range (((f.most - f.least) / 2).toNat + 1)).map fun (i : Nat) => f.most - 2 * (i : Int)

/-- One more diagonal at each end of a front, or one less where there is no room. -/
def widen (r : Rows) (p : Part) (outside : Int) (f : Front) : Front :=
  let least := p.low - p.highOther
  let most := p.high - p.lowOther
  let f :=
    if least < f.least then
      let f := { f with least := f.least - 1 }
      r.reach f (f.least - 1) outside
    else { f with least := f.least + 1 }
  if f.most < most then
    let f := { f with most := f.most + 1 }
    r.reach f (f.most + 1) outside
  else { f with most := f.most - 1 }

/-- Go forward along diagonals; where does one meet the front that comes from behind? -/
def forward (r : Rows) (p : Part) (meets : Bool) (back : Front) :
    List Int → Front → Front × Option (Int × Int)
  | [], f => (f, none)
  | d :: ds, f =>
    let below := r.at? f (d - 1)
    let above := r.at? f (d + 1)
    let start := if below < above then above else below + 1
    let x := r.slide p r.steps start (start - d)
    let f := r.reach f d x
    if meets && back.least ≤ d && d ≤ back.most && r.at? back d ≤ x then (f, some (x, x - d))
    else forward r p meets back ds f

/-- Go back along diagonals; where does one meet the front that comes from before? -/
def backward (r : Rows) (p : Part) (meets : Bool) (ahead : Front) :
    List Int → Front → Front × Option (Int × Int)
  | [], f => (f, none)
  | d :: ds, f =>
    let below := r.at? f (d - 1)
    let above := r.at? f (d + 1)
    let start := if below < above then below else above - 1
    let x := r.slideBack p r.steps start (start - d)
    let f := r.reach f d x
    if meets && ahead.least ≤ d && d ≤ ahead.most && x ≤ r.at? ahead d then (f, some (x, x - d))
    else backward r p meets ahead ds f

/-- Let both fronts go on in turn until they meet. -/
def meet (r : Rows) (p : Part) (isOdd : Bool) : Nat → Front → Front → Int × Int
  | 0, _, _ => (p.low, p.lowOther)
  | fuel + 1, ahead, back =>
    let ahead := r.widen p (-1) ahead
    match r.forward p isOdd back (diagonals ahead) ahead with
    | (_, some place) => place
    | (ahead, none) =>
      let back := r.widen p (r.first.size + r.second.size + 3) back
      match r.backward p (!isOdd) ahead (diagonals back) back with
      | (_, some place) => place
      | (back, none) => meet r p isOdd fuel ahead back

/-- Where a part is taken apart. -/
def middle (r : Rows) (p : Part) : Int × Int :=
  let start := p.low - p.lowOther
  let stop := p.high - p.highOther
  let size := r.first.size + r.second.size + 4
  let front (d x : Int) : Front := r.reach ⟨Array.replicate size (-1), d, d⟩ d x
  r.meet p ((start - stop) % 2 != 0) r.steps (front start p.low) (front stop p.high)

/-- Where the ends of a part begin that are the same. -/
def slideUp (r : Rows) (p : Part) : Nat → Int → Int → Int × Int
  | 0, x, y => (x, y)
  | fuel + 1, x, y =>
    if p.low < x && p.lowOther < y && r.same (x - 1) (y - 1) then slideUp r p fuel (x - 1) (y - 1)
    else (x, y)

def marked (marks : Marks) (low high : Int) : Marks :=
  (List.range (high - low).toNat).foldl (fun ms i => ms.setIfInBounds (low.toNat + i) true) marks

/-- Mark what is changed in a part. -/
def compare (r : Rows) : Nat → Part → Marks × Marks → Marks × Marks
  | 0, _, ms => ms
  | fuel + 1, p, (first, second) =>
    let x := r.slide p r.steps p.low p.lowOther
    let p := { p with low := x, lowOther := p.lowOther + (x - p.low) }
    let (high, highOther) := r.slideUp p r.steps p.high p.highOther
    let p := { p with high, highOther }
    if p.low = p.high then (first, marked second p.lowOther p.highOther)
    else if p.lowOther = p.highOther then (marked first p.low p.high, second)
    else
      let (x, y) := r.middle p
      let ms := compare r fuel { p with high := x, highOther := y } (first, second)
      compare r fuel { p with low := x, lowOther := y } ms

end Rows

/-! ### Settling -/

def isMarked (ms : Marks) (i : Int) : Bool :=
  0 ≤ i && (ms[i.toNat]?).getD false

def mark (ms : Marks) (i : Int) (value : Bool) : Marks :=
  ms.setIfInBounds i.toNat value

/-- The first place from one on that is not marked, and the last one before. -/
def unmarkedFrom (ms : Marks) : Nat → Int → Int
  | 0, i => i
  | fuel + 1, i => if isMarked ms i then unmarkedFrom ms fuel (i + 1) else i

def unmarkedBefore (ms : Marks) : Nat → Int → Int
  | 0, i => i
  | fuel + 1, i => if isMarked ms (i - 1) then unmarkedBefore ms fuel (i - 1) else i

/-- A run of changed elements that is being moved: from where to where, and the place in the other row. -/
structure Run where
  marks : Marks
  start : Int
  stop : Int
  other : Int
  /-- The end of the run at the last place where the other row has changes, too. -/
  matching : Option Int := none

/-- Move a run back by one. -/
def Run.back (others : Marks) (r : Run) : Run :=
  let fuel := r.marks.size + others.size + 2
  let marks := mark (mark r.marks (r.start - 1) true) (r.stop - 1) false
  let start := unmarkedBefore marks fuel (r.start - 1)
  let rec before : Nat → Int → Int
    | 0, j => j
    | n + 1, j => if isMarked others (j - 1) then before n (j - 1) else j - 1
  { r with marks, start, stop := r.stop - 1, other := before fuel r.other }

/-- Move a run back as long as the element before it is the same as its last. -/
def Run.moveBack (row : Array Nat) (others : Marks) : Nat → Run → Run
  | 0, r => r
  | fuel + 1, r =>
    if 0 < r.start && row[(r.start - 1).toNat]? == row[(r.stop - 1).toNat]? then
      moveBack row others fuel (r.back others)
    else r

/-- Move a run forward as long as its first element is the same as the one behind it. -/
def Run.moveForward (row : Array Nat) (others : Marks) : Nat → Run → Run
  | 0, r => r
  | fuel + 1, r =>
    if r.stop < row.size && row[r.start.toNat]? == row[r.stop.toNat]? then
      let marks := mark (mark r.marks r.start false) r.stop true
      let size := row.size + others.size + 2
      let stop := unmarkedFrom marks size (r.stop + 1)
      let other := unmarkedFrom others size (r.other + 1)
      let matching := if isMarked others (r.other + 1) then some stop else r.matching
      moveForward row others fuel { r with marks, start := r.start + 1, stop, other, matching }
    else r

/-- Move a run back and forward until it does not grow any more. -/
def Run.move (row : Array Nat) (others : Marks) : Nat → Run → Run
  | 0, r => r
  | fuel + 1, r =>
    let length := r.stop - r.start
    let size := row.size + others.size + 2
    let r := r.moveBack row others size
    let r := { r with matching := if isMarked others (r.other - 1) then some r.stop else none }
    let r := r.moveForward row others size
    if r.stop - r.start = length then r else move row others fuel r

/-- Move a run back to where the other row has changes, too. -/
def Run.moveToMatch (others : Marks) : Nat → Run → Run
  | 0, r => r
  | fuel + 1, r =>
    match r.matching with
    | some place => if place < r.stop then moveToMatch others fuel (r.back others) else r
    | none => r

/-- Move all runs of a row, from a place on. -/
def settledFrom (row : Array Nat) (others : Marks) : Nat → Int → Int → Marks → Marks
  | 0, _, _, ms => ms
  | fuel + 1, i, j, ms =>
    let size := row.size + others.size + 2
    if (row.size : Int) ≤ i then ms
    else if !isMarked ms i then settledFrom row others fuel (i + 1) (unmarkedFrom others size j + 1) ms
    else
      let stop := unmarkedFrom ms size i
      let r : Run := { marks := ms, start := i, stop, other := unmarkedFrom others size j }
      let r := (r.move row others size).moveToMatch others size
      settledFrom row others fuel r.stop r.other r.marks

def settled (row : Array Nat) (marks others : Marks) : Marks :=
  settledFrom row others (2 * row.size + 2) 0 0 marks

/-! ### Changes -/

/-- The elements of a row that are in another, with their places. -/
def shared (row other : Array Nat) : List (Nat × Nat) :=
  (row.toList.zipIdx).filter fun (e, _) => other.contains e

/-- Marks of some places, and of all others that do not count. -/
def spread (size : Nat) (kept : List (Nat × Nat)) (marks : Marks) : Marks :=
  (kept.zipIdx).foldl (fun ms ((_, place), i) => ms.setIfInBounds place ((marks[i]?).getD false))
    (Array.replicate size true)

/-- Which elements of two rows are changed. What one row has alone is left aside at first. -/
def marksOf (first second : Array Nat) : Marks × Marks :=
  let keptFirst := shared first second
  let keptSecond := shared second first
  let r : Rows := ⟨(keptFirst.map (·.1)).toArray, (keptSecond.map (·.1)).toArray⟩
  let part : Part := ⟨0, r.first.size, 0, r.second.size⟩
  let (a, b) := r.compare (r.steps + 2) part
    (Array.replicate r.first.size false, Array.replicate r.second.size false)
  let a := spread first.size keptFirst a
  let b := spread second.size keptSecond b
  let a := settled first a b
  (a, settled second b a)

/-- The changes that marks tell of, from a place in each row on. -/
def changesFrom (a b : Marks) : Nat → Nat → Nat → List Change
  | 0, _, _ => []
  | fuel + 1, i, j =>
    if a.size ≤ i && b.size ≤ j then []
    else
      let size := a.size + b.size + 1
      let stop := (unmarkedFrom a size i).toNat
      let stopOther := (unmarkedFrom b size j).toNat
      if stop = i && stopOther = j then changesFrom a b fuel (i + 1) (j + 1)
      else ⟨i, j, stop - i, stopOther - j⟩ :: changesFrom a b fuel stop stopOther

/-- The number of elements at the beginning that are the same. -/
def commonLength : List Nat → List Nat → Nat
  | x :: xs, y :: ys => if x = y then commonLength xs ys + 1 else 0
  | _, _ => 0

/-- The changes from one row to another. Of what is the same at both ends only so much is looked at. -/
def changes (around : Nat) (first second : Array Nat) : List Change :=
  let xs := first.toList
  let ys := second.toList
  let before := commonLength xs ys - around
  let xs := xs.drop before
  let ys := ys.drop before
  let most := min xs.length ys.length
  let behind := min most (commonLength xs.reverse ys.reverse) - around
  let a := (xs.take (xs.length - behind)).toArray
  let b := (ys.take (ys.length - behind)).toArray
  let (ms, ns) := marksOf a b
  (changesFrom ms ns (a.size + b.size + 2) 0 0).map fun c =>
    { c with first := c.first + before, second := c.second + before }

end Difference

end Ensemble.Text
