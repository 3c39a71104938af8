/-!
# Ensemble.Shell.Elements

**The values of a variable that has many**: a row, in which places are numbers, some of which may be
free, or values under keys. Keys are listed in the order of the places that they are dealt to
(`Elements.bucketOf`), and of keys at one place the last one first.
-/

namespace Ensemble.Shell

/-- The values of a variable. -/
inductive Elements
  /-- In the order of their places. -/
  | row (items : List (Nat × String))
  /-- In the order in which keys are listed. -/
  | keyed (items : List (String × String))
deriving DecidableEq, Repr

namespace Elements

/-- The number of places that keys are dealt to. -/
def keyBuckets : Nat := 1024

/-- The place that a key is dealt to. -/
def bucketOf (key : String) : Nat :=
  let mix (n : UInt32) (c : Char) : UInt32 :=
    let octet := UInt32.ofNat (if c.toNat < 128 then c.toNat else 4294967296 - 256 + c.toNat)
    (n * 16777619) ^^^ octet
  (key.toList.foldl mix 2166136261).toNat % keyBuckets

/-- Put a value into a row. -/
def putAt (place : Nat) (value : String) : List (Nat × String) → List (Nat × String)
  | [] => [(place, value)]
  | (p, v) :: items =>
    if p < place then (p, v) :: putAt place value items
    else if p = place then (place, value) :: items
    else (place, value) :: (p, v) :: items

/-- Put a value under a key that is new. -/
def putNew (key value : String) : List (String × String) → List (String × String)
  | [] => [(key, value)]
  | (k, v) :: items =>
    if bucketOf k < bucketOf key then (k, v) :: putNew key value items
    else (key, value) :: (k, v) :: items

/-- Put a value under a key. -/
def putKey (key value : String) (items : List (String × String)) : List (String × String) :=
  if (items.lookup key).isSome then
    items.map fun (k, v) => if k == key then (k, value) else (k, v)
  else putNew key value items

def values : Elements → List String
  | .row items => items.map (·.2)
  | .keyed items => items.map (·.2)

/-- The places that there are, as texts. -/
def places : Elements → List String
  | .row items => items.map fun (p, _) => toString p
  | .keyed items => items.map (·.1)

/-- The place behind the last one of a row. -/
def nextPlace : Elements → Nat
  | .row items => (items.getLast?.map (·.1 + 1)).getD 0
  | .keyed _ => 0

/-- The value at a place, which is counted from behind if it is negative. -/
def placeOf (e : Elements) (n : Int) : Option Nat :=
  if 0 ≤ n then some n.toNat
  else
    let n := n + e.nextPlace
    if 0 ≤ n then some n.toNat else none

/-- The value that stands for all if only one is asked for. -/
def first : Elements → Option String
  | .row items => items.lookup 0
  | .keyed items => items.lookup "0"

/-- What is put into a row is there. -/
theorem lookup_putAt (place : Nat) (value : String) (items : List (Nat × String)) :
    (putAt place value items).lookup place = some value := by
  induction items with
  | nil => simp [putAt]
  | cons item items ih =>
      obtain ⟨p, v⟩ := item
      simp only [putAt]
      split
      · have : (place == p) = false := by simp; omega
        simp [List.lookup_cons, this, ih]
      · split <;> simp

end Elements

end Ensemble.Shell
