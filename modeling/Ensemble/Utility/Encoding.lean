import Ensemble.Utility.Input
import Ensemble.Utility.Options
import Ensemble.Utility.Quotation

/-!
# Ensemble.Utility.Encoding

Octets **in letters and digits**: `base64` and `base32`. Each letter stands for some bits, and groups of
letters that are not full are filled up with equality signs.
-/

namespace Ensemble.Utility

/-- How octets are told in letters. -/
structure Alphabet where
  letters : List Char
  /-- The bits of a letter. -/
  bits : Nat
  /-- The octets and the letters of a group. -/
  octets : Nat
  group : Nat

namespace Alphabet

def base64 : Alphabet :=
  ⟨"ABCDEFGHIJKLMNOPQRSTUVWXYZabcdefghijklmnopqrstuvwxyz0123456789+/".toList, 6, 3, 4⟩

def base32 : Alphabet :=
  ⟨"ABCDEFGHIJKLMNOPQRSTUVWXYZ234567".toList, 5, 5, 8⟩

/-- The letters of the octets of a group. -/
def groupText (a : Alphabet) (octets : List Nat) : List Char :=
  let whole := octets ++ List.replicate (a.octets - octets.length) 0
  let n := whole.foldl (fun n b => n * 256 + b) 0
  let used := (octets.length * 8 + a.bits - 1) / a.bits
  (List.range a.group).map fun i =>
    if i < used then
      (a.letters[n / Nat.pow 2 (a.bits * (a.group - 1 - i)) % Nat.pow 2 a.bits]?).getD 'A'
    else '='

/-- The letters of octets. -/
def encode (a : Alphabet) : Nat → List Nat → List Char
  | 0, _ => []
  | _, [] => []
  | fuel + 1, bs => a.groupText (bs.take a.octets) ++ encode a fuel (bs.drop a.octets)

/-- The octets of the letters of a group, which may lack some at the end. -/
def groupOctets (a : Alphabet) (values : List Nat) : List Nat :=
  let whole := values ++ List.replicate (a.group - values.length) 0
  let n := whole.foldl (fun n v => n * Nat.pow 2 a.bits + v) 0
  let count := values.length * a.bits / 8
  (List.range count).map fun i => n / Nat.pow 256 (a.octets - 1 - i) % 256

/-- The octets of letters, and is there anything wrong with them? -/
def decode (a : Alphabet) : Nat → List Char → List Nat × Bool
  | 0, _ => ([], false)
  | _, [] => ([], true)
  | fuel + 1, cs =>
    let group := cs.take a.group
    let letters := group.takeWhile a.letters.contains
    let values := letters.map fun c => (a.letters.findIdx? (· == c)).getD 0
    let filler := group.drop letters.length
    let isShaped := letters.length = a.group ||
      group.length = a.group && filler.all (· == '=') &&
        letters.length * a.bits / 8 * 8 + a.bits > letters.length * a.bits
    if isShaped && !letters.isEmpty then
      let (more, fine) := decode a fuel (cs.drop a.group)
      (a.groupOctets values ++ more, fine)
    else (a.groupOctets values, false)

end Alphabet

/-- A text in lines of so many characters. -/
def wrapped (width : Nat) : Nat → List Char → List (List Char)
  | 0, _ => []
  | _, [] => []
  | fuel + 1, cs => cs.take width :: wrapped width fuel (cs.drop width)

/-- Tell an input in letters, or take it from letters. -/
def encodeFile (a : Alphabet) (args : List String) : Tool Nat := do
  let (chosen, operands) ← ({
    letters := "diw:"
    words := [("decode", "d"), ("wrap:", "w"), ("ignore-garbage", "i")] } : Choices).given args
  let width ←
    match chosen.value? "w" with
    | none => pure 76
    | some text =>
      match text.toNat? with
      | some n => pure n
      | none => giveUp 1 ("invalid wrap size: " ++ quoted text)
  match operands with
  | _ :: extra :: _ => misused ("extra operand " ++ quoted extra)
  | _ => pure ()
  let path := operands.headD "-"
  match ← contentOf path with
  | .notOpened e => giveUp 1 (nameOf path ++ ": " ++ e.message)
  | .notRead e => giveUp 1 ("read error: " ++ e.message)
  | .text s =>
    if chosen.has "d" then
      let cs := s.toList.filter fun c =>
        c != '\n' && (!chosen.has "i" || c == '=' || a.letters.contains c)
      let (octets, fine) := a.decode (cs.length + 1) cs
      say (.ofList (octets.map Char.ofNat))
      if !fine then giveUp 1 "invalid input"
      return 0
    else
      let cs := a.encode (s.length + 1) (s.toList.map (·.toNat))
      if width = 0 then say (.ofList cs)
      else
        for line in wrapped width (cs.length + 1) cs do sayLine (.ofList line)
      return 0

end Ensemble.Utility
