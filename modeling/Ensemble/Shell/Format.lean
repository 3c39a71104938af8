import Ensemble.Shell.Layout

/-!
# Ensemble.Shell.Format

**Formatted output**: the backslash escapes of `echo`, and the conversions of `printf`. A format is
used again as long as there are arguments that it has not used.
-/

namespace Ensemble.Shell.Format

/-! ### Escapes -/

def isOctal (c : Char) : Bool :=
  '0' ≤ c && c ≤ '7'

/-- The character of octal digits. -/
def ofOctal (cs : List Char) : Char :=
  Char.ofNat (cs.foldl (fun n c => n * 8 + (c.toNat - '0'.toNat)) 0 % 256)

/-- The character that a letter behind a backslash stands for. -/
def escape? : Char → Option Char
  | 'a' => some '\x07'
  | 'b' => some '\x08'
  | 'e' => some '\x1b'
  | 'f' => some '\x0c'
  | 'n' => some '\n'
  | 'r' => some '\r'
  | 't' => some '\t'
  | 'v' => some '\x0b'
  | '\x5c' => some '\x5c'
  | _ => none

/-- The character that an escape stands for, after its backslash, and what follows it. -/
def escape (cs : List Char) : Char × List Char :=
  match (cs.head?).bind escape? with
  | some c => (c, cs.drop 1)
  | none =>
    let digits := (cs.takeWhile isOctal).take 3
    if digits = [] then ('\x5c', cs) else (ofOctal digits, cs.drop digits.length)

/-- A text with its escapes replaced; is it cut off by a `\c`? An octal number may have a zero in
front of its three digits. -/
def unescape : Nat → List Char → List Char × Bool
  | 0, cs => (cs, false)
  | _, [] => ([], false)
  | fuel + 1, c :: cs =>
    if c != '\x5c' then
      let (text, cut) := unescape fuel cs
      (c :: text, cut)
    else
      match cs with
      | 'c' :: _ => ([], true)
      | cs =>
        let cs :=
          match cs with
          | '0' :: d :: rest => if isOctal d then d :: rest else cs
          | cs => cs
        let (e, rest) := escape cs
        let (text, cut) := unescape fuel rest
        (e :: text, cut)

def unescapeAll (s : String) : String × Bool :=
  let (text, cut) := unescape (s.length + 1) s.toList
  (.ofList text, cut)

/-- What `echo` writes for its arguments. -/
def echo (args : List String) : String :=
  let (args, ended) :=
    match args with
    | "-n" :: rest => (rest, false)
    | args => (args, true)
  let (text, cut) := unescapeAll (" ".intercalate args)
  if cut then text else text ++ (if ended then "\n" else "")

/-! ### Arguments -/

/-- What has been printed so far, the last piece first. -/
structure Printed where
  pieces : List String := []
  args : List String
  /-- Has an argument been asked for? -/
  used : Bool := false
  /-- Complaints, the last first, and how many pieces had been printed before each. -/
  complaints : List (Nat × String) := []
  /-- What is wrong with the format, so that it cannot be gone on with. -/
  fault : Option String := none
  stopped : Bool := false

namespace Printed

def put (p : Printed) (s : String) : Printed :=
  { p with pieces := s :: p.pieces }

/-- What has been printed. -/
def text (p : Printed) : String :=
  String.join p.pieces.reverse

/-- Take the next argument, if there is one. -/
def next (p : Printed) : Option String × Printed :=
  match p.args with
  | [] => (none, { p with used := true })
  | a :: args => (some a, { p with args, used := true })

/-- Complain about an argument if its number has no digits, if something follows it, or if it is out
of range. -/
def check (p : Printed) (s : String) (found : Option (List Char)) (outside : Bool) : Printed :=
  let tell (why : String) : Printed := { p with complaints := (p.pieces.length, s ++ ": " ++ why) :: p.complaints }
  match found with
  | none => if s = "" then p else tell "expected numeric value"
  | some (_ :: _) => tell "not completely converted"
  | some [] => if outside then tell "Numerical result out of range" else p

/-- The code of the character behind a quote. -/
def quotedCode? (s : String) : Option Nat :=
  match s.toList with
  | '\x22' :: cs | '\x27' :: cs => some (cs.headD '\x00').toNat
  | _ => none

/-- The number of an argument, between two bounds; a quote in front stands for the code of a
character. -/
def nextNumber (p : Printed) (low high : Int) : Int × Printed :=
  match p.next with
  | (none, p) => (0, p)
  | (some s, p) =>
    match quotedCode? s with
    | some n => (n, p)
    | none =>
      let found := Numeral.read? 0 s.toList
      let n := (found.map (·.value)).getD 0
      let inside := Numeral.clamp low high n
      (inside, p.check s (found.map (·.rest)) (inside != n))

/-- The bounds of a number without a sign. The opposites of such numbers count too. -/
def nextUnsigned (p : Printed) : Nat × Printed :=
  match p.next with
  | (none, p) => (0, p)
  | (some s, p) =>
    match quotedCode? s with
    | some n => (n, p)
    | none =>
      let found := Numeral.read? 0 s.toList
      let n := (found.map (·.value)).getD 0
      let outside := decide ((UInt64.size : Int) ≤ n.natAbs)
      (if outside then UInt64.size - 1 else (n % UInt64.size).toNat,
        p.check s (found.map (·.rest)) outside)

/-- The real number of an argument. -/
def nextReal (p : Printed) : Real × Printed :=
  match p.next with
  | (none, p) => (.finite false ⟨0, 1⟩, p)
  | (some s, p) =>
    match quotedCode? s with
    | some n => (.finite false ⟨n, 1⟩, p)
    | none =>
      match Real.read? s with
      | none => (.finite false ⟨0, 1⟩, p.check s none false)
      | some (r, rest) =>
        let (r, outside) := r.round .double
        (r, p.check s (some rest) outside)

end Printed

/-! ### Conversions -/

/-- Carry out a conversion; none if there is no such one. -/
def convert (l : Layout) (c : Char) (p : Printed) : Option Printed :=
  match c with
  | 's' =>
    let (a, p) := p.next
    some (p.put (l.text (a.getD "")))
  | 'b' =>
    let (a, p) := p.next
    let (s, cut) := unescapeAll (a.getD "")
    some { p.put (l.text s) with stopped := cut }
  | 'c' =>
    let (a, p) := p.next
    some (p.put (l.fill (((a.getD "").toList.headD '\x00').toString)))
  | 'd' | 'i' =>
    let (n, p) := p.nextNumber Numeral.least Numeral.greatest
    some (p.put (l.signed n))
  | 'u' | 'o' | 'x' | 'X' =>
    let (n, p) := p.nextUnsigned
    some (p.put (l.unsigned c n))
  | 'f' | 'F' | 'e' | 'E' | 'g' | 'G' | 'a' | 'A' =>
    let (r, p) := p.nextReal
    some (p.put (l.real .double c r))
  | _ => none

/-- A number in the format, or one from the arguments for a star. -/
def measure (cs : List Char) (p : Printed) : Int × List Char × Printed :=
  match cs with
  | '*' :: cs =>
    let (n, p) := p.nextNumber Numeral.least Numeral.greatest
    (Int.bmod n 4294967296, cs, p)
  | cs =>
    let digits := cs.takeWhile Char.isDigit
    ((Numeral.digits 10 digits).1, cs.drop digits.length, p)

/-- A conversion, after its percent sign. -/
def conversion (cs : List Char) (p : Printed) : Printed × List Char :=
  let (l, rest) := Layout.flags cs {}
  let (width, rest, p) := measure rest p
  let l := l.withWidth width
  let (l, rest, p) : Layout × List Char × Printed :=
    match rest with
    | '.' :: rest =>
      let (n, rest, p) := measure rest p
      (l.withPrecision n, rest, p)
    | rest => (l, rest, p)
  match rest with
  | [] => ({ p with fault := some "missing format character", stopped := true }, [])
  | c :: rest =>
    match convert l c p with
    | some p => (p, rest)
    | none =>
      let told := .ofList (cs.take (cs.length - rest.length))
      ({ p with fault := some ("%" ++ told ++ ": invalid directive"), stopped := true }, [])

/-- Go over the format once. -/
def pass : Nat → List Char → Printed → Printed
  | 0, _, p => p
  | _, [], p => p
  | fuel + 1, c :: cs, p =>
    if p.stopped then p
    else
      match c, cs with
      | '\x5c', cs =>
        let (e, rest) := escape cs
        pass fuel rest (p.put e.toString)
      | '%', '%' :: rest => pass fuel rest (p.put "%")
      | '%', cs =>
        let (p, rest) := conversion cs p
        pass fuel rest p
      | c, cs => pass fuel cs (p.put c.toString)

/-- Go over the format as long as that uses arguments up. -/
def passes (format : List Char) : Nat → Printed → Printed
  | 0, p => p
  | fuel + 1, p =>
    let after := pass (format.length + 1) format p
    if after.stopped || after.args.isEmpty || after.args.length = p.args.length then after
    else passes format fuel after

/-- What `printf` writes for a format and arguments, and what it complains about. -/
def printf (format : String) (args : List String) : Printed :=
  passes format.toList (args.length + 1) { args }

end Ensemble.Shell.Format
