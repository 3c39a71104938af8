import Ensemble.Shell.Arithmetic
import Ensemble.Text.Lines

/-!
# Ensemble.Shell.Extended.Arithmetic

**Arithmetic of the extended dialect**. Beside what the plain dialect has there are powers, steps up and
down, several expressions behind one another, numbers of any base up to 64, and places in rows of values.
The value of a name is an expression itself. A fault is told with the rest of the text from the token
where it was found.
-/

namespace Ensemble.Shell.Extended.Arithmetic

/-- A token. -/
inductive Token
  | number (n : Int64)
  | name (s : String) (place : Option String)
  | mark (s : String)
  /-- What is no token, and why. -/
  | wrong (told : String)
  | finish
deriving DecidableEq, Repr

/-- A token and the text from it on. -/
abbrev Placed := Token × String

/-! ### Tokens -/

/-- The marks, the longer ones first. -/
def marks : List String :=
  ["<<=", ">>=", "**", "&&", "||", "<<", ">>", "<=", ">=", "==", "!=", "+=", "-=", "*=", "/=", "%=",
    "&=", "|=", "^=", "++", "--", "+", "-", "*", "/", "%", "<", ">", "=", "!", "~", "&", "|", "^", "?",
    ":", ",", "(", ")"]

/-- The value of a digit of a great base. -/
def digitValue (base : Nat) (c : Char) : Nat :=
  if c.isDigit then c.toNat - '0'.toNat
  else if base ≤ 36 then if c.isAlpha then c.toLower.toNat - 'a'.toNat + 10 else 64
  else if c.isLower then c.toNat - 'a'.toNat + 10
  else if c.isUpper then c.toNat - 'A'.toNat + 36
  else if c == '@' then 62
  else if c == '_' then 63
  else 64

/-- The number that digits of a base stand for, of which the lowest 64 bits count. -/
def ofDigits (base : Nat) (cs : List Char) : Except String Int64 :=
  if cs.all fun c => decide (digitValue base c < base) then
    .ok (cs.foldl (fun n c => n * Int64.ofNat base + Int64.ofNat (digitValue base c)) 0)
  else .error "value too great for base"

/-- The number that a word stands for. -/
def numberOf (word : List Char) : Except String Int64 :=
  match Text.splitFirst '#' word with
  | some (base, digits) =>
    let n := Nat.ofDigitChars 10 base 0
    if !base.all Char.isDigit || n < 2 || 64 < n then .error "invalid arithmetic base"
    else if digits.isEmpty then .error "invalid integer constant"
    else ofDigits n digits
  | none =>
    match word with
    | '0' :: x :: digits =>
      if x == 'x' || x == 'X' then ofDigits 16 digits else ofDigits 8 (x :: digits)
    | _ => ofDigits 10 word

/-- The text between brackets of which the first has been passed, and what follows the last. -/
def bracketed : Nat → List Char → Option (List Char × List Char)
  | _, [] => none
  | 0, ']' :: cs => some ([], cs)
  | depth, c :: cs =>
    let depth := if c == '[' then depth + 1 else if c == ']' then depth - 1 else depth
    (bracketed depth cs).map fun (inside, rest) => (c :: inside, rest)

def isBlank (c : Char) : Bool :=
  c == ' ' || c == '\t' || c == '\n'

/-- Cut an expression into tokens. At its end stands the text from the last token on. -/
def tokens : Nat → String → List Char → List Placed
  | 0, last, _ => [(.finish, last)]
  | _, last, [] => [(.finish, last)]
  | fuel + 1, last, c :: cs =>
    let here := String.ofList (c :: cs)
    if isBlank c then tokens fuel last cs
    else if c.isDigit then
      let word := (c :: cs).takeWhile fun d => d.isAlphanum || d == '#' || d == '@' || d == '_'
      let token :=
        match numberOf word with
        | .ok n => Token.number n
        | .error told => .wrong told
      (token, here) :: tokens fuel here ((c :: cs).drop word.length)
    else if isNameStart c then
      let word := (c :: cs).takeWhile isNameChar
      let rest := (c :: cs).drop word.length
      match rest with
      | '[' :: after =>
        match bracketed 0 after with
        | some (inside, rest) => (.name (.ofList word) (some (.ofList inside)), here) :: tokens fuel here rest
        | none => (.name (.ofList word) none, here) :: tokens fuel here rest
      | rest => (.name (.ofList word) none, here) :: tokens fuel here rest
    else
      match marks.find? fun m => m.toList.isPrefixOf (c :: cs) with
      | some m => (.mark m, here) :: tokens fuel here ((c :: cs).drop m.length)
      | none => [(.wrong "syntax error: invalid arithmetic operator", here)]

/-! ### Values -/

/-- Where names have values, and what is done about a fault, given the text from the token on. -/
structure Names (m : Type → Type) where
  /-- The expression that complaints are about. -/
  expression : String := ""
  get : String → Option String → m String
  put : String → Option String → Int64 → m Unit
  fail : {α : Type} → String → String → String → m α

/-- Complain about the expression, from a text on. -/
def Names.wrong {m : Type → Type} {α : Type} (names : Names m) (told text : String) : m α :=
  names.fail names.expression told text

/-- A value that is read off tokens. The switch tells whether it counts. -/
abbrev Eval (m : Type → Type) := Bool → List Placed → m (Int64 × List Placed)

/-- A power; so many bits of the exponent are looked at. -/
def power : Nat → Int64 → Nat → Int64
  | 0, _, _ => 1
  | fuel + 1, a, n =>
    if n = 0 then 1
    else
      let half := power fuel (a * a) (n / 2)
      if n % 2 = 1 then a * half else half

/-- An operator between two operands, and its rank; a higher rank binds closer. -/
def operator? : String → Option (Operator × Nat)
  | "|" => some (.bitOr, 1)
  | "^" => some (.bitXor, 2)
  | "&" => some (.bitAnd, 3)
  | "==" => some (.eq, 4)
  | "!=" => some (.ne, 4)
  | "<" => some (.lt, 5)
  | "<=" => some (.le, 5)
  | ">" => some (.gt, 5)
  | ">=" => some (.ge, 5)
  | "<<" => some (.shiftLeft, 6)
  | ">>" => some (.shiftRight, 6)
  | "+" => some (.add, 7)
  | "-" => some (.sub, 7)
  | "*" => some (.mul, 8)
  | "/" => some (.div, 8)
  | "%" => some (.mod, 8)
  | _ => none

/-- The text from the first token on. -/
def textAt : List Placed → String
  | (_, text) :: _ => text
  | [] => ""

section
variable {m : Type → Type} [Monad m] (names : Names m)

/-- The value of two operands; `text` begins with the second one. -/
def applied (op : Operator) (text : String) (a b : Int64) : m Int64 :=
  match op with
  | .div | .mod =>
    if b = 0 then names.wrong "division by 0" text
    else if b = -1 then return if op = .div then -a else 0
    else
      match Shell.Arithmetic.Operator.apply op a b with
      | .ok n => return n
      | .error _ => return 0
  | op =>
    match Shell.Arithmetic.Operator.apply op a b with
    | .ok n => return n
    | .error _ => return 0

/-- The value of a name. -/
def valueOf (text : String → m Int64) (live : Bool) (name : String) (place : Option String) : m Int64 := do
  if live then text (← names.get name place) else return 0

/-- An operand, given the ways to evaluate expressions and texts. -/
def operand (whole : Eval m) (text : String → m Int64) : Nat → Eval m
  | 0, _, ts => names.wrong "syntax error: operand expected" (textAt ts)
  | fuel + 1, live, ts => do
    let signed (f : Int64 → Int64) (ts : List Placed) : m (Int64 × List Placed) := do
      let (a, ts) ← operand whole text fuel live ts
      return (f a, ts)
    let stepped (name : String) (place : Option String) (by' : Int64) (before : Bool)
        (ts : List Placed) : m (Int64 × List Placed) := do
      let a ← valueOf names text live name place
      if live then names.put name place (a + by')
      return (if before then a + by' else a, ts)
    match ts with
    | (.number n, _) :: ts => return (n, ts)
    | (.name s place, _) :: (.mark "++", _) :: ts => stepped s place 1 false ts
    | (.name s place, _) :: (.mark "--", _) :: ts => stepped s place (-1) false ts
    | (.name s place, _) :: ts => return (← valueOf names text live s place, ts)
    | (.mark "(", _) :: ts => do
      let (a, ts) ← whole live ts
      match ts with
      | (.mark ")", _) :: ts => return (a, ts)
      | ts => names.wrong "missing \x60)'" (textAt ts)
    | (.mark "++", _) :: (.name s place, _) :: ts => stepped s place 1 true ts
    | (.mark "--", _) :: (.name s place, _) :: ts => stepped s place (-1) true ts
    | (.mark "++", _) :: ts => signed id ts
    | (.mark "--", _) :: ts => signed id ts
    | (.mark "+", _) :: ts => signed id ts
    | (.mark "-", _) :: ts => signed (- ·) ts
    | (.mark "!", _) :: ts => signed (fun a => Shell.Arithmetic.ofBool (a == 0)) ts
    | (.mark "~", _) :: ts => signed (~~~ ·) ts
    | (.wrong told, text) :: _ => names.wrong told text
    | ts => names.wrong "syntax error: operand expected" (textAt ts)

/-- Operands joined as powers, from the right. -/
def powers (part : Eval m) : Nat → Eval m
  | 0, live, ts => part live ts
  | fuel + 1, live, ts => do
    let (a, ts) ← part live ts
    match ts with
    | (.mark "**", _) :: ts => do
      let text := textAt ts
      let (b, ts) ← powers part fuel live ts
      if b < 0 then
        if live then names.wrong "exponent less than 0" text
        return (0, ts)
      return (power 64 a b.toInt.toNat, ts)
    | ts => return (a, ts)

/-- What follows an operand: operators of at least a rank. -/
def joinedFrom (part : Eval m) (live : Bool) : Nat → Nat → Int64 → List Placed → m (Int64 × List Placed)
  | 0, _, a, ts => return (a, ts)
  | fuel + 1, least, a, ts => do
    match ts with
    | (.mark s, _) :: rest =>
      match operator? s with
      | some (op, rank) =>
        if rank < least then return (a, ts)
        let text := textAt rest
        let (b, rest) ← part live rest
        let (b, rest) ← joinedFrom part live fuel (rank + 1) b rest
        let value ← if live then applied names op text a b else pure 0
        joinedFrom part live fuel least value rest
      | none => return (a, ts)
    | ts => return (a, ts)

/-- Conditions that all have to hold. -/
def both (part : Eval m) : Nat → Eval m
  | 0, live, ts => part live ts
  | fuel + 1, live, ts => do
    let (a, ts) ← part live ts
    let rec more : Nat → Int64 → List Placed → m (Int64 × List Placed)
      | 0, a, ts => return (a, ts)
      | n + 1, a, (.mark "&&", _) :: ts => do
        let (b, ts) ← part (live && a != 0) ts
        more n (Shell.Arithmetic.ofBool (a != 0 && b != 0)) ts
      | _, a, ts => return (a, ts)
    more fuel a ts

/-- Conditions of which one has to hold. -/
def either (part : Eval m) : Nat → Eval m
  | 0, live, ts => part live ts
  | fuel + 1, live, ts => do
    let (a, ts) ← part live ts
    let rec more : Nat → Int64 → List Placed → m (Int64 × List Placed)
      | 0, a, ts => return (a, ts)
      | n + 1, a, (.mark "||", _) :: ts => do
        let (b, ts) ← part (live && a == 0) ts
        more n (Shell.Arithmetic.ofBool (a != 0 || b != 0)) ts
      | _, a, ts => return (a, ts)
    more fuel a ts

/-- A choice between two expressions, if a test stands before them. -/
def choice (whole part : Eval m) : Nat → Eval m
  | 0, live, ts => part live ts
  | fuel + 1, live, ts => do
    let (test, ts) ← part live ts
    match ts with
    | (.mark "?", _) :: ts => do
      match ts with
      | (.mark ":", _) :: _ | (.finish, _) :: _ => names.wrong "expression expected" (textAt ts)
      | _ => pure ()
      let (a, ts) ← whole (live && test != 0) ts
      match ts with
      | (.mark ":", _) :: ts => do
        match ts with
        | (.finish, _) :: _ => names.wrong "expression expected" (textAt ts)
        | _ => pure ()
        let (b, ts) ← choice whole part fuel (live && test == 0) ts
        return (if test != 0 then a else b, ts)
      | ts => names.wrong "\x60:' expected for conditional expression" (textAt ts)
    | ts => return (test, ts)

/-- An assignment, or an expression that is none; so many levels of it. -/
def assigned (whole : Eval m) (text : String → m Int64) : Nat → Eval m
  | 0, _, ts => names.wrong "syntax error: operand expected" (textAt ts)
  | fuel + 1, live, ts => do
    let target :=
      match ts with
      | (.name s place, _) :: (.mark mark, _) :: rest =>
        (Shell.Arithmetic.assignment? mark).map fun op => (s, place, op, rest)
      | _ => none
    match target with
    | some (s, place, op, rest) => do
      let after := textAt rest
      let (b, rest) ← assigned whole text fuel live rest
      if !live then return (b, rest)
      let n ←
        match op with
        | none => pure b
        | some op => do applied names op after (← valueOf names text live s place) b
      names.put s place n
      return (n, rest)
    | none => do
      let size := ts.length + 1
      let joined : Eval m := fun live ts => do
        let part := powers names (operand names whole text size) size
        let (a, ts) ← part live ts
        joinedFrom names part live size 0 a ts
      let (n, rest) ← choice names whole (either (both joined size) size) size live ts
      match rest with
      | (.mark mark, here) :: _ =>
        if (Shell.Arithmetic.assignment? mark).isSome then
          names.wrong "attempted assignment to non-variable" here
        else return (n, rest)
      | rest => return (n, rest)

/-- Expressions behind one another, of which the last one counts; so many levels. -/
def whole (text : String → m Int64) : Nat → Eval m
  | 0, _, ts => names.wrong "syntax error: operand expected" (textAt ts)
  | fuel + 1, live, ts => do
    let (n, ts) ← assigned names (whole text fuel) text (ts.length + 1) live ts
    match ts with
    | (.mark ",", _) :: ts => whole text fuel live ts
    | ts => return (n, ts)

/-- The value of the text of an expression; an empty one is 0. So many names may stand for others. -/
def eval : Nat → String → m Int64
  | 0, text => names.wrong "expression recursion level exceeded" text
  | fuel + 1, text => do
    if text.toList.all isBlank then return 0
    let names := { names with expression := text }
    let ts := tokens (text.length + 1) "" text.toList
    let (n, rest) ← whole names (eval fuel) (ts.length + 1) true ts
    match rest with
    | (.finish, _) :: _ | [] => return n
    | (.wrong told, here) :: _ => names.wrong told here
    | (_, here) :: _ => names.wrong "syntax error in expression" here

end

/-- How many names may stand for others. -/
def nameDepth : Nat := 1024

end Ensemble.Shell.Extended.Arithmetic
