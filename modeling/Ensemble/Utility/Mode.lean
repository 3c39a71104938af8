import Ensemble.Machine.Call
import Ensemble.Text.Lines

/-!
# Ensemble.Utility.Mode

**Modes** of files: how they are told, and the changes of them that a text asks for. A change is an octal
number, or clauses with commas between them: for whom, then what is added, taken away or set.
-/

namespace Ensemble.Utility

/-- All bits of a mode that can be changed. -/
def allBits : Nat := 0o7777

/-- The bits of `a` that are not in `b`. -/
def bitsWithout (a b : Nat) : Nat :=
  a - (a &&& b)

/-- The letter of a kind of place. -/
def kindLetter : Kind → Char
  | .file => '-'
  | .directory => 'd'
  | .link => 'l'
  | .device => 'c'
  | .queue => 'p'

/-- The letters of a mode. -/
def modeLetters (mode : Nat) : String :=
  let letters (bits : Nat) (special : Bool) (both one : Char) : List Char :=
    let x := bits % 2 == 1
    [if bits / 4 % 2 == 1 then 'r' else '-', if bits / 2 % 2 == 1 then 'w' else '-',
      if special then (if x then both else one) else (if x then 'x' else '-')]
  .ofList (letters (mode / 64 % 8) (mode / 2048 % 2 == 1) 's' 'S' ++
    letters (mode / 8 % 8) (mode / 1024 % 2 == 1) 's' 'S' ++
    letters (mode % 8) (mode / 512 % 2 == 1) 't' 'T')

/-- The digits of a mode, four at least. -/
def modeDigits (mode : Nat) : String :=
  let digits := Nat.toDigits 8 mode
  .ofList (List.replicate (4 - digits.length) '0' ++ digits)

namespace ModeChange

/-- What is done with bits. -/
inductive Operator
  | add
  | take
  | set
deriving DecidableEq, Repr

/-- Which bits are meant. -/
inductive Source
  | bits
  /-- Also the bits to run, if someone may run it already or it is a directory. -/
  | runIfAny
  /-- Those that one class of users has, for the classes that are meant. -/
  | copied
deriving DecidableEq, Repr

end ModeChange

/-- A change of a mode. -/
structure ModeChange where
  operator : ModeChange.Operator
  source : ModeChange.Source
  /-- The bits of those who are meant; 0 if nobody is named. -/
  affected : Nat
  value : Nat
  /-- The bits that are named. -/
  mentioned : Nat
deriving DecidableEq, Repr

namespace ModeChange

def operator? : Char → Option Operator
  | '+' => some .add
  | '-' => some .take
  | '=' => some .set
  | _ => none

/-- The bits of a class of users. -/
def classBits? : Char → Option Nat
  | 'u' => some 0o4700
  | 'g' => some 0o2070
  | 'o' => some 0o1007
  | 'a' => some allBits
  | _ => none

/-- The permissions of a class of users. -/
def copyBits? : Char → Option Nat
  | 'u' => some 0o700
  | 'g' => some 0o070
  | 'o' => some 0o007
  | _ => none

/-- The bits of a letter. -/
def letterBits? : Char → Option Nat
  | 'r' => some 0o444
  | 'w' => some 0o222
  | 'x' => some 0o111
  | 's' => some 0o6000
  | 't' => some 0o1000
  | 'X' => some 0
  | _ => none

def isOctal (c : Char) : Bool :=
  '0' ≤ c && c ≤ '7'

/-- The operators of a clause, each with what it is about. -/
def operators (affected : Nat) : Nat → List Char → Option (List ModeChange)
  | 0, _ => none
  | _, [] => some []
  | fuel + 1, c :: cs => do
    let op ← operator? c
    let digits := cs.takeWhile isOctal
    if !digits.isEmpty then
      let n := Nat.ofDigitChars 8 digits 0
      if allBits < n || affected != 0 || digits.length != cs.length then none
      return [⟨op, .bits, allBits, n, allBits⟩]
    else
      match cs with
      | d :: rest =>
        match copyBits? d with
        | some bits =>
          let mentioned := if affected != 0 then affected &&& bits else bits
          return ⟨op, .copied, affected, bits, mentioned⟩ :: (← operators affected fuel rest)
        | none =>
          let letters := cs.takeWhile fun c => (letterBits? c).isSome
          let bits := letters.foldl (fun n c => n ||| (letterBits? c).getD 0) 0
          let source := if letters.contains 'X' then Source.runIfAny else .bits
          let mentioned := if affected != 0 then affected &&& bits else bits
          return ⟨op, source, affected, bits, mentioned⟩ ::
            (← operators affected fuel (cs.drop letters.length))
      | [] => return [⟨op, .bits, affected, 0, 0⟩]

/-- The changes of one clause. -/
def clause (cs : List Char) : Option (List ModeChange) :=
  let classes := cs.takeWhile fun c => (classBits? c).isSome
  let affected := classes.foldl (fun n c => n ||| (classBits? c).getD 0) 0
  let rest := cs.drop classes.length
  if rest.isEmpty then none else operators affected (rest.length + 1) rest

/-- The changes that a text asks for. -/
def ofString? (s : String) : Option (List ModeChange) :=
  let cs := s.toList
  if (cs.head?).any isOctal then
    let n := Nat.ofDigitChars 8 cs 0
    if !cs.all isOctal || allBits < n then none
    else
      let mentioned := if cs.length < 5 then (n &&& 0o6000) ||| 0o1777 else allBits
      some [⟨.set, .bits, allBits, n, mentioned⟩]
  else
    let (first, more) := Text.cutBetween ',' cs
    (first :: more).foldr (fun c found => do
      let changes ← clause c
      return changes ++ (← found)) (some [])

/-- Carry a change out. -/
def apply (isDirectory : Bool) (mask : Nat) (mode : Nat) (c : ModeChange) : Nat :=
  let omitted := if isDirectory then bitsWithout 0o6000 c.mentioned else 0
  let value :=
    match c.source with
    | .bits => c.value
    | .runIfAny =>
      if isDirectory || (mode &&& 0o111) != 0 then c.value ||| 0o111 else c.value
    | .copied =>
      let had := c.value &&& mode
      had ||| (if (had &&& 0o444) != 0 then 0o444 else 0) |||
        (if (had &&& 0o222) != 0 then 0o222 else 0) ||| (if (had &&& 0o111) != 0 then 0o111 else 0)
  let value := bitsWithout (if c.affected != 0 then value &&& c.affected else bitsWithout value mask) omitted
  match c.operator with
  | .add => mode ||| value
  | .take => bitsWithout mode value
  | .set =>
    let kept := (if c.affected != 0 then bitsWithout allBits c.affected else 0) ||| omitted
    (mode &&& kept) ||| value

/-- Carry changes out. -/
def applyAll (isDirectory : Bool) (mask mode : Nat) (cs : List ModeChange) : Nat :=
  cs.foldl (apply isDirectory mask) (mode % 4096)

/-- A number of five digits is the mode itself. -/
theorem applyAll_number (isDirectory : Bool) (mask mode n : Nat) (h : n &&& allBits = n) :
    applyAll isDirectory mask mode [⟨.set, .bits, allBits, n, allBits⟩] = n := by
  have h1 : bitsWithout allBits allBits = 0 := by decide
  have h2 : bitsWithout 0o6000 allBits = 0 := by decide
  have h3 (a : Nat) : bitsWithout a 0 = a := by simp [bitsWithout]
  have h4 : allBits ≠ 0 := by decide
  cases isDirectory <;> simp [applyAll, apply, h, h1, h2, h3, h4]

end ModeChange

end Ensemble.Utility
