import Ensemble.Shell.Extended.Quoting
import Ensemble.Shell.Extended.Word
import Ensemble.Shell.Format
import Ensemble.Text.Calendar

/-!
# Ensemble.Shell.Extended.Format

**Formatted output of the extended dialect**: escapes by hexadecimal numbers, words as they could be used
again, and times. What is wrong with an argument is told, and what can be made of it counts.
-/

namespace Ensemble.Shell.Extended

namespace Format

/-! ### Escapes -/

/-- Where escapes stand. -/
inductive Escaped
  /-- In the arguments of `echo`: octal numbers begin with a zero. -/
  | echoed
  /-- In an argument of a format. -/
  | argument
  | format
deriving DecidableEq, Repr

/-- The characters that an escape stands for, behind its backslash, and what follows it. -/
def escape (place : Escaped) (cs : List Char) : List Char × List Char :=
  let octal (most : Nat) (cs : List Char) : Option (List Char × List Char) :=
    let ds := (cs.take most).takeWhile Shell.Format.isOctal
    if ds.isEmpty then none
    else some ([Char.ofNat ((Numeral.digits 8 ds).1 % 256)], cs.drop ds.length)
  match cs with
  | [] => (['\x5c'], [])
  | c :: rest =>
    match c with
    | '0' =>
      if place = .format then (octal 3 cs).getD (['\x00'], rest)
      else (octal 3 rest).getD (['\x00'], rest)
    | '\x27' | '"' | '?' => if place = .format then ([c], rest) else (['\x5c', c], rest)
    | 'c' => (['\x5c', 'c'], rest)
    | c =>
      if Shell.Format.isOctal c then
        if place = .echoed then (['\x5c', c], rest) else (octal 3 cs).getD (['\x5c'], cs)
      else Extended.escape cs

/-- A text with its escapes replaced; is it cut off by a `\c`? -/
def unescape (place : Escaped) : Nat → List Char → List Char × Bool
  | 0, cs => (cs, false)
  | _, [] => ([], false)
  | fuel + 1, c :: cs =>
    if c != '\x5c' then
      let (text, cut) := unescape place fuel cs
      (c :: text, cut)
    else if cs.head? == some 'c' then ([], true)
    else
      let (e, rest) := escape place cs
      let (text, cut) := unescape place fuel rest
      (e ++ text, cut)

def unescapeAll (place : Escaped) (s : String) : String × Bool :=
  let (text, cut) := unescape place (s.length + 1) s.toList
  (.ofList text, cut)

/-- How `echo` writes its arguments. -/
structure Echo where
  ends : Bool := true
  escapes : Bool := false

/-- Take the options off arguments: words of these letters alone. -/
def echoOptions : List String → Echo → Echo × List String
  | [], e => (e, [])
  | a :: args, e =>
    match a.toList with
    | '-' :: c :: cs =>
      if (c :: cs).all (['n', 'e', 'E'].contains ·) then
        echoOptions args ((c :: cs).foldl (fun e c =>
          if c == 'n' then { e with ends := false } else { e with escapes := c == 'e' }) e)
      else (e, a :: args)
    | _ => (e, a :: args)

/-- What `echo` writes for its arguments. -/
def echo (escapes : Bool) (args : List String) : String :=
  let (e, args) := echoOptions args { escapes }
  let text := " ".intercalate args
  let (text, cut) := if e.escapes then unescapeAll .echoed text else (text, false)
  if cut then text else text ++ (if e.ends then "\n" else "")

/-! ### Arguments -/

/-- What is said of a text that is no number. -/
def notNumber (s : String) : String :=
  match s.toList with
  | '0' :: c :: _ =>
    if c.isDigit then s ++ ": invalid octal number"
    else if c == 'x' || c == 'X' then s ++ ": invalid hex number"
    else s ++ ": invalid number"
  | _ => s ++ ": invalid number"

/-- What has been printed so far, and whether an argument was wrong. -/
structure Printed where
  base : Shell.Format.Printed
  failed : Bool := false
  /-- The time now, and the time when the shell began. -/
  now : Int := 0
  began : Int := 0

namespace Printed

def put (p : Printed) (s : String) : Printed :=
  { p with base := p.base.put s }

def next (p : Printed) : Option String × Printed :=
  let (a, base) := p.base.next
  (a, { p with base })

def tell (p : Printed) (told : String) (fails : Bool) : Printed :=
  { p with
    base := { p.base with complaints := (p.base.pieces.length, told) :: p.base.complaints }
    failed := p.failed || fails }

/-- The number of an argument between two bounds. -/
def nextNumber (p : Printed) (low high : Int) : Int × Printed :=
  match p.next with
  | (none, p) => (0, p)
  | (some s, p) =>
    match Shell.Format.Printed.quotedCode? s with
    | some n => (n, p)
    | none =>
      match Numeral.read? 0 s.toList with
      | none => (0, if s = "" then p else p.tell (notNumber s) true)
      | some n =>
        let p := if n.rest.isEmpty then p else p.tell (notNumber s) true
        let inside := Numeral.clamp low high n.value
        (inside, if inside = n.value then p
          else p.tell ("warning: " ++ s ++ ": Numerical result out of range") false)

/-- The number of an argument without a sign. -/
def nextUnsigned (p : Printed) : Nat × Printed :=
  let (n, p) := p.nextNumber (-(UInt64.size : Int)) (UInt64.size - 1)
  ((n % UInt64.size).toNat, p)

/-- The real number of an argument. -/
def nextReal (p : Printed) : Real × Printed :=
  let zero : Real := .finite false ⟨0, 1⟩
  match p.next with
  | (none, p) => (zero, p)
  | (some s, p) =>
    match Shell.Format.Printed.quotedCode? s with
    | some n => (.finite false ⟨n, 1⟩, p)
    | none =>
      match Real.read? s with
      | none => (zero, if s = "" then p else p.tell (notNumber s) true)
      | some (r, rest) =>
        let (r, _) := r.round .extended
        (r, if rest.isEmpty then p else p.tell (notNumber s) true)

end Printed

/-! ### Conversions -/

/-- A number in the format, or one from the arguments for a star. -/
def measure (cs : List Char) (p : Printed) : Int × List Char × Printed :=
  match cs with
  | '*' :: cs =>
    let (n, p) := p.nextNumber Numeral.least Numeral.greatest
    (Int.bmod n 4294967296, cs, p)
  | cs =>
    let digits := cs.takeWhile Char.isDigit
    ((Numeral.digits 10 digits).1, cs.drop digits.length, p)

/-- Carry out a conversion; none if there is no such one. -/
def convert (l : Layout) (c : Char) (p : Printed) : Option Printed :=
  match c with
  | 's' =>
    let (a, p) := p.next
    some (p.put (l.text (a.getD "")))
  | 'b' =>
    let (a, p) := p.next
    let (s, cut) := unescapeAll .argument (a.getD "")
    let p := p.put (l.text s)
    some { p with base := { p.base with stopped := cut } }
  | 'q' =>
    let (a, p) := p.next
    some (p.put (l.text (Quoting.protected' (a.getD ""))))
  | 'Q' =>
    let (a, p) := p.next
    let a := match l.precision with
      | some n => String.ofList ((a.getD "").toList.take n)
      | none => a.getD ""
    some (p.put (l.fill (Quoting.protected' a)))
  | 'c' =>
    let (a, p) := p.next
    some (p.put (l.fill (((a.getD "").toList.headD '\x00').toString)))
  | 'n' =>
    let (_, p) := p.next
    some p
  | 'd' | 'i' =>
    let (n, p) := p.nextNumber Numeral.least Numeral.greatest
    some (p.put (l.signed n))
  | 'u' | 'o' | 'x' | 'X' =>
    let (n, p) := p.nextUnsigned
    some (p.put (l.unsigned c n))
  | 'f' | 'F' | 'e' | 'E' | 'g' | 'G' | 'a' | 'A' =>
    let (r, p) := p.nextReal
    some (p.put (l.real .extended c r))
  | _ => none

/-- The time of an argument in a form. -/
def time (l : Layout) (form : List Char) (p : Printed) : Printed :=
  let (n, p) : Int × Printed :=
    match p.base.args with
    | [] =>
      let (_, p) := p.next
      (-1, p)
    | _ => p.nextNumber Numeral.least Numeral.greatest
  let s := if n = -1 then p.now else if n = -2 then p.began else n
  p.put (l.text (Text.Calendar.formatted s 0 (if form.isEmpty then "%H:%M:%S" else .ofList form)))

/-- Flags at the beginning of a conversion, and what follows them. Digits can be grouped, which changes
nothing. -/
def flags : Nat → List Char → Layout → Layout × List Char
  | 0, cs, l => (l, cs)
  | fuel + 1, cs, l =>
    match Layout.flags cs l with
    | (l, '\x27' :: cs) => flags fuel cs l
    | found => found

/-- A conversion, after its percent sign. -/
def conversion (cs : List Char) (p : Printed) : Printed × List Char :=
  let halt (told : String) : Printed × List Char :=
    ({ p with base := { p.base with fault := some told, stopped := true } }, [])
  let (l, rest) := flags cs.length cs {}
  let (width, rest, p) := measure rest p
  let l := l.withWidth width
  let (l, rest, p) : Layout × List Char × Printed :=
    match rest with
    | '.' :: rest =>
      let (n, rest, p) := measure rest p
      (l.withPrecision n, rest, p)
    | rest => (l, rest, p)
  let rest := rest.dropWhile (['h', 'j', 'l', 'L', 't', 'z'].contains ·)
  match rest with
  | [] => halt ("\x60%" ++ .ofList cs ++ "': missing format character")
  | '(' :: rest =>
    let form := rest.takeWhile (· != ')')
    match rest.drop form.length with
    | ')' :: 'T' :: rest => (time l form p, rest)
    | _ :: c :: _ => halt ("\x60" ++ c.toString ++ "': invalid format character")
    | _ => halt ("\x60%" ++ .ofList cs ++ "': missing format character")
  | c :: rest =>
    match convert l c p with
    | some p => (p, rest)
    | none =>
      ({ p with base :=
          { p.base with
            fault := some ("\x60" ++ c.toString ++ "': invalid format character"), stopped := true } }, [])

/-- Go over the format once. -/
def pass : Nat → List Char → Printed → Printed
  | 0, _, p => p
  | _, [], p => p
  | fuel + 1, c :: cs, p =>
    if p.base.stopped then p
    else
      match c, cs with
      | '\x5c', cs =>
        let (e, rest) := escape .format cs
        pass fuel rest (p.put (.ofList e))
      | '%', '%' :: rest => pass fuel rest (p.put "%")
      | '%', cs =>
        let (p, rest) := conversion cs p
        pass fuel rest p
      | c, cs => pass fuel cs (p.put c.toString)

/-- Go over the format as long as that uses arguments up. -/
def passes (format : List Char) : Nat → Printed → Printed
  | 0, p => p
  | fuel + 1, p =>
    let after := pass (format.length + 1) format p
    let left := after.base.args
    if after.base.stopped || left.isEmpty || left.length = p.base.args.length then after
    else passes format fuel after

/-- What `printf` writes for a format and arguments, and what it complains about, at a time. -/
def printf (now began : Int) (format : String) (args : List String) : Printed :=
  passes format.toList (args.length + 1) { base := { args }, now, began }

end Format

end Ensemble.Shell.Extended
