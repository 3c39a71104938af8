import Ensemble.Utility.Options
import Ensemble.Utility.Quotation
import Ensemble.Shell.Format

/-!
# Ensemble.Utility.Printing

Utilities that **print** what they are told: `echo`, `printf` and `yes`. The escapes and conversions
are those of the shell's own commands and some more; numbers are rounded to 64 binary digits.
-/

namespace Ensemble.Utility

open Shell (Layout Numeral Binary)

/-! ### Escapes -/

def isHexDigit (c : Char) : Bool :=
  decide (Numeral.digitValue c < 16)

/-- The number of the hexadecimal digits at the beginning, so many at most, and what follows. -/
def hexNumber (most : Nat) (cs : List Char) : Nat × List Char :=
  let digits := (cs.takeWhile isHexDigit).take most
  ((Numeral.digits 16 digits).1, cs.drop digits.length)

/-- A text with the escapes of `echo` replaced; is it cut off? -/
def unescapeEcho : Nat → List Char → List Char × Bool
  | 0, cs => (cs, false)
  | _, [] => ([], false)
  | fuel + 1, '\x5c' :: c :: cs =>
    let keep (out rest : List Char) : List Char × Bool :=
      let (text, cut) := unescapeEcho fuel rest
      (out ++ text, cut)
    match c with
    | 'c' => ([], true)
    | '0' =>
      let digits := (cs.takeWhile Shell.Format.isOctal).take 3
      keep [Shell.Format.ofOctal digits] (cs.drop digits.length)
    | 'x' =>
      let (n, rest) := hexNumber 2 cs
      if rest.length = cs.length then keep ['\x5c', 'x'] cs else keep [Char.ofNat n] rest
    | c =>
      if Shell.Format.isOctal c then
        let digits := ((c :: cs).takeWhile Shell.Format.isOctal).take 3
        keep [Shell.Format.ofOctal digits] ((c :: cs).drop digits.length)
      else
        match Shell.Format.escape? c with
        | some e => keep [e] cs
        | none => keep ['\x5c', c] cs
  | fuel + 1, c :: cs =>
    let (text, cut) := unescapeEcho fuel cs
    (c :: text, cut)

/-- The switches at the beginning of the arguments of `echo`: is the line ended, and are escapes
replaced? -/
def echoSwitches : Bool → Bool → List String → Bool × Bool × List String
  | ended, escapes, [] => (ended, escapes, [])
  | ended, escapes, a :: args =>
    match a.toList with
    | '-' :: c :: cs =>
      if (c :: cs).all (['n', 'e', 'E'].contains ·) then
        let (ended, escapes) := (c :: cs).foldl (fun (ended, escapes) c =>
          match c with
          | 'n' => (false, escapes)
          | 'e' => (ended, true)
          | _ => (ended, false)) (ended, escapes)
        echoSwitches ended escapes args
      else (ended, escapes, a :: args)
    | _ => (ended, escapes, a :: args)

def echo (args : List String) : Tool Nat := do
  let (ended, escapes, args) := echoSwitches true false args
  let text := " ".intercalate args
  let (text, cut) := if escapes then
      let (text, cut) := unescapeEcho (text.length + 1) text.toList
      (String.ofList text, cut)
    else (text, false)
  say (if ended && !cut then text ++ "\n" else text)
  return 0

/-! ### Formats -/

/-- How far `printf` has come. -/
structure Printf where
  args : List String
  /-- Has an argument been used in this pass over the format? -/
  used : Bool := false
  status : Nat := 0

namespace Printf

/-- The next argument. -/
def next (p : Printf) : String × Printf :=
  match p.args with
  | [] => ("", p)
  | a :: args => (a, { p with args, used := true })

/-- Complain about a number of which something is left, or which is out of range. -/
def check (p : Printf) (s : String) (rest : Option (List Char)) (outside : Bool) : Tool Printf := do
  let left := rest.getD s.toList
  let told :=
    if outside then some MachineFault.outOfRange.message
    else if left.isEmpty then none
    else if rest.isNone then some "expected a numeric value"
    else some "value not completely converted"
  match told with
  | some t => do
    complain (shellQuoted s ++ ": " ++ t)
    return { p with status := 1 }
  | none => return p

/-- The code of the character behind a quote; what follows it is passed over. -/
def quotedCode (p : Printf) (s : String) : Tool (Option (Nat × Printf)) := do
  match s.toList with
  | q :: c :: more =>
    if q == '"' || q == '\x27' then do
      if !more.isEmpty then
        complain ("warning: " ++ .ofList more ++
          ": character(s) following character constant have been ignored")
      return some (c.toNat, p)
    else return none
  | _ => return none

/-- The whole number of an argument, between two bounds. -/
def number (p : Printf) (s : String) (low high : Int) : Tool (Int × Printf) := do
  match ← p.quotedCode s with
  | some (n, p) => return (n, p)
  | none => do
    let found := Numeral.read? 0 s.toList
    let n := (found.map (·.value)).getD 0
    let inside := Numeral.clamp low high n
    return (inside, ← p.check s (found.map (·.rest)) (inside != n))

/-- The whole number of an argument, without a sign; the opposites of such numbers count too. -/
def unsigned (p : Printf) (s : String) : Tool (Nat × Printf) := do
  match ← p.quotedCode s with
  | some (n, p) => return (n, p)
  | none => do
    let found := Numeral.read? 0 s.toList
    let n := (found.map (·.value)).getD 0
    let outside := decide ((UInt64.size : Int) ≤ n.natAbs)
    return (if outside then UInt64.size - 1 else (n % UInt64.size).toNat,
      ← p.check s (found.map (·.rest)) outside)

/-- The real number of an argument. -/
def real (p : Printf) (s : String) : Tool (Shell.Real × Printf) := do
  match ← p.quotedCode s with
  | some (n, p) => return (.finite false ⟨n, 1⟩, p)
  | none =>
    match Shell.Real.read? s with
    | none => return (.finite false ⟨0, 1⟩, ← p.check s none false)
    | some (r, rest) => do
      let (r, outside) := r.round .extended
      return (r, ← p.check s (some rest) outside)

/-- Print an escape, after its backslash; an octal number of an argument may have a zero more. -/
def escape (inArgument : Bool) (cs : List Char) : Tool (List Char) := do
  match cs with
  | [] => do
    say "\\"
    return []
  | 'x' :: rest => do
    let (n, after) := hexNumber 2 rest
    if after.length = rest.length then giveUp 1 "missing hexadecimal number in escape"
    say (Char.ofNat n).toString
    return after
  | 'c' :: _ => quit 0
  | '"' :: rest => do
    say "\""
    return rest
  | c :: rest => do
    if Shell.Format.isOctal c then
      let start := if inArgument && c == '0' then rest else c :: rest
      let digits := (start.takeWhile Shell.Format.isOctal).take 3
      say (Shell.Format.ofOctal digits).toString
      return start.drop digits.length
    else
      match Shell.Format.escape? c with
      | some e => do
        say e.toString
        return rest
      | none =>
        if c == 'u' || c == 'U' then
          let width := if c == 'u' then 4 else 8
          let (n, after) := hexNumber width rest
          if rest.length != after.length + width then giveUp 1 "missing hexadecimal number in escape"
          if 0xD800 ≤ n && n ≤ 0xDFFF then
            giveUp 1 ("invalid universal character name \\" ++ c.toString ++
              .ofList (rest.take width))
          if n < 0x80 then say (Char.ofNat n).toString
          else
            let digits := (String.ofList (Nat.toDigits 16 n)).toUpper
            let (mark, width) := if n < 0x10000 then ("\\u", 4) else ("\\U", 8)
            say (mark ++ .ofList (List.replicate (width - digits.length) '0') ++ digits)
          return after
        else do
          say ("\\" ++ c.toString)
          return rest

/-- Print an argument with its escapes. -/
def escapes : Nat → List Char → Tool Unit
  | 0, _ => return ()
  | _, [] => return ()
  | fuel + 1, cs => do
    let plain := cs.takeWhile (· != '\x5c')
    say (.ofList plain)
    match cs.drop plain.length with
    | [] => return ()
    | _ :: rest => escapes fuel (← escape true rest)

/-- The conversions that are possible without any flags. -/
def conversions : List Char :=
  "aAcdeEfFgGiosuxX".toList

/-- Flags that do nothing but to rule conversions out, and those that they rule out. -/
def ruledOut (flag : Char) : List Char :=
  match flag with
  | '\x27' | 'I' => "aAceEosxX".toList
  | '#' => "cdisu".toList
  | '0' => "cs".toList
  | _ => []

/-- The width or precision in the format, or one from the arguments for a star. -/
def measure (p : Printf) (what : String) (cs : List Char) :
    Tool (Option Int × List Char × Printf) := do
  match cs with
  | '*' :: rest => do
    match p.args with
    | [] => return (none, rest, p)
    | a :: _ => do
      let (n, p) ← p.next.2.number a Numeral.least Numeral.greatest
      if n < -Numeral.greatestShort - 1 || Numeral.greatestShort < n then
        giveUp 1 ("invalid " ++ what ++ ": " ++ quoted a)
      return (some n, rest, p)
  | cs =>
    let digits := cs.takeWhile Char.isDigit
    return (some (Numeral.digits 10 digits).1, cs.drop digits.length, p)

/-- Print a value by its conversion. -/
def convert (p : Printf) (l : Layout) (c : Char) (s : String) : Tool Printf := do
  match c with
  | 'd' | 'i' => do
    let (n, p) ← p.number s Numeral.least Numeral.greatest
    say (l.signed n)
    return p
  | 'o' | 'u' | 'x' | 'X' => do
    let (n, p) ← p.unsigned s
    say (l.unsigned c n)
    return p
  | 'c' => do
    say (l.fill ((s.toList.headD '\x00').toString))
    return p
  | 's' => do
    say (l.text s)
    return p
  | c => do
    let (r, p) ← p.real s
    say (l.real .extended c r)
    return p

/-- Print a conversion, after its percent sign. -/
def conversion (p : Printf) (cs : List Char) : Tool (Printf × List Char) := do
  match cs with
  | '%' :: rest => do
    say "%"
    return (p, rest)
  | 'b' :: rest => do
    let (s, p) := p.next
    escapes (s.length + 1) s.toList
    return (p, rest)
  | 'q' :: rest => do
    let used := !p.args.isEmpty
    let (s, p) := p.next
    if used then say (nameText s)
    return (p, rest)
  | cs => do
    let flags := cs.takeWhile (['\x27', 'I', '-', '+', ' ', '#', '0'].contains ·)
    let (l, _) := Layout.flags (flags.filter fun c => c != '\x27' && c != 'I') {}
    let out := flags.flatMap ruledOut
    let (width, rest, p) ← p.measure "field width" (cs.drop flags.length)
    let l := l.withWidth (width.getD 0)
    let (l, out, rest, p) ←
      match rest with
      | '.' :: rest => do
        let (n, rest, p) ← p.measure "precision" rest
        pure (l.withPrecision (n.getD 0), 'c' :: out, rest, p)
      | rest => pure (l, out, rest, p)
    let sizes := rest.takeWhile (['l', 'L', 'h', 'j', 't', 'z'].contains ·)
    let rest := rest.drop sizes.length
    let c := rest.headD '\x00'
    if !conversions.contains c || out.contains c then
      let told := String.ofList (cs.take (cs.length - rest.length + 1))
      giveUp 1 ("%" ++ told ++ ": invalid conversion specification")
    let (s, p) := p.next
    return (← p.convert l c s, rest.drop 1)

/-- Go over the format once. -/
def pass : Nat → List Char → Printf → Tool Printf
  | 0, _, p => return p
  | _, [], p => return p
  | fuel + 1, c :: cs, p => do
    if c == '\x5c' then pass fuel (← escape false cs) p
    else if c == '%' then
      let (p, rest) ← p.conversion cs
      pass fuel rest p
    else
      let plain := (c :: cs).takeWhile fun c => c != '\x5c' && c != '%'
      say (.ofList plain)
      pass fuel ((c :: cs).drop plain.length) p

/-- Go over the format as long as that uses arguments up. -/
def passes (format : List Char) : Nat → Printf → Tool Printf
  | 0, p => return p
  | fuel + 1, p => do
    ask .tick
    let after ← pass (format.length + 1) format { p with used := false }
    if after.used && !after.args.isEmpty then passes format fuel after else return after

end Printf

def printf (args : List String) : Tool Nat := do
  let args := match args with | "--" :: rest => rest | args => args
  match args with
  | [] => misused "missing operand"
  | format :: args => do
    let p ← Printf.passes format.toList (args.length + 1) { args }
    match p.args with
    | [] => pure ()
    | a :: _ => complain ("warning: ignoring excess arguments, starting with " ++ shellQuoted a)
    return p.status

/-! ### Without end -/

/-- Write a text again and again, until that is not possible any more. -/
def repeatText (text : String) : Nat → Tool Unit
  | 0 => return ()
  | fuel + 1 => do
    passOn text
    repeatText text fuel

def yes (args : List String) : Tool Nat := do
  let (_, operands) ← ({} : Choices).given args
  let line := (if operands.isEmpty then "y" else " ".intercalate operands) ++ "\n"
  let block := String.join (List.replicate (8192 / line.length + 1) line)
  repeatText block readCount
  return 0
where
  readCount : Nat := 1000000000

end Ensemble.Utility
