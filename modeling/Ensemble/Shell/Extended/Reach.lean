import Ensemble.Shell.Extended.Pattern
import Ensemble.Shell.Extended.Value
import Ensemble.Shell.Extended.Word

/-!
# Ensemble.Shell.Extended.Reach

**What is reached through a name**: one value, or many of them (`Reached`), and what can be done with
it: taking a part, replacing what matches a pattern, changing letters, and telling it in another form.
-/

namespace Ensemble.Shell.Extended

/-- What a name and a place in it stand for. -/
inductive Reached
  | one (value : Option String)
  /-- Many values: are they joined? -/
  | many (values : List String) (joined : Bool)

namespace Reached

/-- Do something with each value. -/
def map (f : String → Act String) : Reached → Act Reached
  | .one none => return .one none
  | .one (some v) => return .one (some (← f v))
  | .many vs joined => return .many (← vs.mapM f) joined

/-- Is there a value; is an empty one none? -/
def isThere (emptyToo : Bool) : Reached → Bool
  | .one none => false
  | .one (some v) => !emptyToo || v != ""
  | .many vs _ => !vs.isEmpty && (!emptyToo || vs.any (· != "") || 1 < vs.length)

end Reached

/-- What a name stands for, given the place behind it. `single` is the value of a parameter. -/
def reached (single : Shell → String → Option String) (name : String) (all : Option Bool)
    (place : Option String) : Act Reached := do
  refresh name
  let s ← get
  if name = "@" || name = "*" then return .many s.positional (name = "*" || all == some true)
  match all, place with
  | some joined, _ =>
    match s.declared? (s.target name) with
    | none => return .many [] joined
    | some v =>
      match v.elements, v.value with
      | some e, _ => return .many e.values joined
      | none, some value => return .many [value] joined
      | none, none => return .many [] joined
  | none, some key => return .one (← elementAt name key (return (← evaluate "" key).toInt))
  | none, none =>
    let (base, key) := nameAndPlace (s.target name)
    match key with
    | some key => return .one (← elementAt base key (return (← evaluate "" key).toInt))
    | none => return .one (single s name)

/-- What the value of a name stands for, if it is a name. -/
def reachedThrough (single : Shell → String → Option String) (name : String) (all : Option Bool)
    (place : Option String) : Act Reached := do
  let s ← get
  match s.declared? name with
  | some v =>
    if v.refers && place.isNone && all.isNone then return .one v.value
  | none => pure ()
  match ← reached single name all place with
  | .one (some text) => do
    let (base, key) := nameAndPlace text
    match key with
    | some "@" => reached single base (some false) none
    | some "*" => reached single base (some true) none
    | key => do
      let special := base == "@" || base == "*" || base == "#" || base == "?" || base == "!" || base == "$" ||
        base == "-" || (base != "" && base.toList.all Char.isDigit)
      if !special && !isName base.toList then drop (text ++ ": invalid variable name")
      reached single base none key
  | _ =>
    if ((← get).declared? name).isSome then return .one none
    drop (name ++ ": invalid indirect expansion")

/-- The places that a name has values at. -/
def placesOf (s : Shell) (name : String) : List String :=
  match s.declared? (s.target name) with
  | none => []
  | some v =>
    match v.elements, v.value with
    | some e, _ => e.places
    | none, some _ => ["0"]
    | none, none => []

/-- The names of variables that begin like this. -/
def namesLike (s : Shell) (lead : String) : List String :=
  let dynamic := dynamicNames.filter fun n => (s.declared? n).isNone && n != "FUNCNAME"
  let names := (s.bindings.filter fun (_, v) => v.value.isSome || v.elements.isSome).map (·.1) ++ dynamic
  (names.filter fun n => lead.toList.isPrefixOf n.toList).mergeSort fun a b => decide (a ≤ b)

/-! ### Parts -/

/-- The part of a row from an offset on; the offset and the length may be counted from the end. None if
the end is before the beginning. -/
def slice (xs : List α) (offset : Int) (length : Option Int) : Option (List α) :=
  let size : Int := xs.length
  let start := if offset < 0 then offset + size else offset
  if start < 0 || size < start then some []
  else
    let rest := xs.drop start.toNat
    match length with
    | none => some rest
    | some n =>
      if 0 ≤ n then some (rest.take n.toNat)
      else
        let stop := size + n
        if stop < start then none else some (rest.take (stop - start).toNat)

/-- The part of many values. In a row, places count; where there is no row, the name that all values
belong to stands before them. -/
def sliceMany (s : Shell) (name : String) (values : List String) (offset : Int) (length : Option Int) :
    Option (List String) :=
  match length with
  | some n => if n < 0 then none else go (some n)
  | none => go none
where
  go (length : Option Int) : Option (List String) :=
    let cut (vs : List String) : List String :=
      match length with
      | some n => vs.take n.toNat
      | none => vs
    if name = "@" || name = "*" then
      let all := s.name :: values
      let start := if offset < 0 then offset + all.length else offset
      if start < 0 then some [] else some (cut (all.drop start.toNat))
    else
      match (s.declared? (s.target name)).bind (·.elements) with
      | some (.row items) =>
        let start := if offset < 0 then offset + (Elements.row items).nextPlace else offset
        if start < 0 then some []
        else some (cut ((items.filter fun (p, _) => decide (start ≤ p)).map (·.2)))
      | _ =>
        let start := if offset < 0 then offset + values.length else offset
        if start < 0 then some [] else some (cut (values.drop start.toNat))

/-! ### Letters -/

/-- Letters become great or small, or what they are not: all that match a pattern, or the first. -/
def recased (great : Option Bool) (all : Bool) (pattern : List Char) (value : String) : String :=
  let g := Glob.ofChars true false pattern
  let turn (c : Char) : Char :=
    if pattern.isEmpty || g.isMatch [c] then
      if great.getD c.isLower then c.toUpper else c.toLower
    else c
  match value.toList with
  | [] => ""
  | c :: cs => .ofList (turn c :: if all then cs.map turn else cs)

/-! ### Other forms -/

/-- The letters that tell what kind of variable it is. -/
def attributes (v : Variable) : String :=
  (match v.elements with | some (.row _) => "a" | some (.keyed _) => "A" | none => "") ++
    (if v.isWhole then "i" else "") ++ (if v.refers then "n" else "") ++
    (if v.readOnly then "r" else "") ++ (if v.traced then "t" else "") ++ (if v.exported then "x" else "") ++
    (match v.letters with | some false => "l" | _ => "") ++
    (match v.letters with | some true => "u" | _ => "")

/-- Values with their places, as an assignment could hold them. -/
def elementsText (e : Elements) : String :=
  match e with
  | .row items =>
    "(" ++ " ".intercalate (items.map fun (p, v) =>
      "[" ++ toString p ++ "]=" ++ Quoting.value v) ++ ")"
  | .keyed items =>
    "(" ++ String.join (items.map fun (k, v) =>
      "[" ++ Quoting.key k ++ "]=" ++ Quoting.value v ++ " ") ++ ")"

/-- A value in another form. -/
def reshaped (s : Shell) (name : String) (form : Char) (value : String) : Option String :=
  match form with
  | 'Q' => some (Quoting.reusable value)
  | 'U' => some value.toUpper
  | 'L' => some value.toLower
  | 'u' => some (recased (some true) false [] value)
  | 'E' => some (.ofList (unescape (value.length + 1) value.toList))
  | 'P' => some value
  | 'a' => some (((s.declared? (s.target name)).map attributes).getD "")
  | 'A' =>
    let letters := ((s.declared? (s.target name)).map attributes).getD ""
    some ((if letters = "" then "" else "declare -" ++ letters ++ " ") ++ name ++ "=" ++
      Quoting.reusable value)
  | 'K' | 'k' => some (Quoting.reusable value)
  | _ => none

/-- Many values in another form. -/
def reshapedAll (s : Shell) (name : String) (form : Char) (values : List String) :
    Option (List String) :=
  let elements := (s.declared? (s.target name)).bind (·.elements)
  match form, elements with
  | 'A', some e =>
    let letters := ((s.declared? (s.target name)).map attributes).getD ""
    some ["declare -" ++ letters ++ " " ++ name ++ "=" ++ elementsText e]
  | 'A', none =>
    if name = "@" || name = "*" then
      some ["set -- " ++ " ".intercalate (values.map Quoting.reusable)]
    else values.mapM (reshaped s name form)
  | 'K', some e =>
    some [" ".intercalate ((e.places.zip e.values).map fun (p, v) =>
      Quoting.key p ++ " " ++ Quoting.value v)]
  | 'k', some e => some ((e.places.zip e.values).flatMap fun (p, v) => [p, v])
  | _, _ => values.mapM (reshaped s name form)

/-- Do something with what was reached that needs no words. -/
def Reached.reshape (name : String) (form : Char) (r : Reached) : Act Reached := do
  let s ← get
  let wrong : Act Reached := leaveWith ("$\x7b" ++ name ++ "@" ++ form.toString ++ "\x7d: bad substitution")
  match r with
  | .one none => return .one none
  | .one (some v) =>
    match reshaped s name form v with
    | some v => return .one (some v)
    | none => wrong
  | .many vs joined =>
    match reshapedAll s name form vs with
    | some vs => return .many vs joined
    | none => wrong

end Ensemble.Shell.Extended
