import Ensemble.Text.Regex.Reader
import Ensemble.Utility.Basic
import Ensemble.Utility.Quotation

/-!
# Ensemble.Utility.Expression

**Expressions** of words: `expr`. Operators bind in six levels; what is joined by a bar or an ampersand
is not reckoned if it does not count. Numbers are as large as they need to be.
-/

namespace Ensemble.Utility

/-- The value of an expression. -/
inductive Worth
  | number (n : Int)
  | text (s : String)
deriving Repr

/-- What is wrong with an expression. -/
inductive ExprFault
  | missingAfter (word : String)
  | missing
  | closingAfter (word : String)
  | closingNot (word : String)
  | unexpected (word : String)
  | closing
  | notNumber
  | zero
  | regex (f : Text.RegexFault)

/-- The words for a fault. -/
def ExprFault.message : ExprFault → String
  | .missingAfter w => "syntax error: missing argument after " ++ quoted w
  | .missing => "missing operand"
  | .closingAfter w => "syntax error: expecting ')' after " ++ quoted w
  | .closingNot w => "syntax error: expecting ')' instead of " ++ quoted w
  | .unexpected w => "syntax error: unexpected argument " ++ quoted w
  | .closing => "syntax error: unexpected ')'"
  | .notNumber => "non-integer argument"
  | .zero => "division by zero"
  | .regex f => f.message

namespace Worth

def toText : Worth → String
  | number n => toString n
  | text s => s

/-- The number that a value is, if it is one. -/
def number? : Worth → Option Int
  | number n => some n
  | text s =>
    let (negative, digits) := match s.toList with | '-' :: cs => (true, cs) | cs => (false, cs)
    if digits.isEmpty || !digits.all Char.isDigit then none
    else
      let n : Int := Nat.ofDigitChars 10 digits 0
      some (if negative then -n else n)

/-- Does a value count for nothing? -/
def isNull : Worth → Bool
  | number n => n == 0
  | text s =>
    match s.toList with
    | [] => true
    | cs =>
      let digits := match cs with | '-' :: cs => cs | cs => cs
      !digits.isEmpty && digits.all (· == '0')

/-- How two values compare: as numbers if both are numbers, or else as texts. -/
def compare (a b : Worth) : Ordering :=
  match a.number?, b.number? with
  | some x, some y => Ord.compare x y
  | _, _ =>
    let codes (w : Worth) : List Nat := w.toText.toList.map Char.toNat
    Ord.compare (codes a) (codes b)

end Worth

namespace Expression

/-- The words that are left, and the one before them. -/
structure Words where
  left : List String
  before : String := "expr"

/-- Reads a part of an expression; is it reckoned? -/
abbrev Part := Bool → Words → Except ExprFault (Worth × Words)

/-- The next word. -/
def next (w : Words) : Except ExprFault (String × Words) :=
  match w.left with
  | [] => .error (.missingAfter w.before)
  | a :: left => .ok (a, ⟨left, a⟩)

/-- Match a text with a pattern from its beginning on: what the first group matches, or else how much
is matched. -/
def matched (text pattern : String) : Except ExprFault Worth := do
  let r ← (Text.Regex.ofString
    { extended := false, strict := false, strictBraces := false, strictRanges := false } pattern).mapError
      .regex
  let sight : Text.Sight := { text := text.toList.toArray, remembers := r.remembers }
  let found := r.regex.matchAt sight 0
  return if r.groups = 0 then .number ((found.map fun m => (m.stop : Int)).getD 0)
    else .text (.ofList ((found.map fun m => Text.Regex.textOf sight.text m 1).getD []))

/-- The characters of a text from a place on. -/
def piece (text : String) (place length : Worth) : String :=
  match place.number?, length.number? with
  | some p, some n =>
    if p < 1 || n < 1 then ""
    else .ofList ((text.toList.drop (p.toNat - 1)).take n.toNat)
  | _, _ => ""

/-- A word, or an expression in parentheses. -/
def atom (whole : Part) : Part := fun counts w => do
  let (a, rest) ← next w
  match a with
  | "(" => do
    let (value, rest) ← whole counts rest
    match rest.left with
    | [] => throw (.closingAfter rest.before)
    | ")" :: left => return (value, ⟨left, ")"⟩)
    | b :: _ => throw (.closingNot b)
  | ")" => throw .closing
  | a => return (.text a, rest)

/-- A word that asks for something, with what it is about. -/
def asked (whole : Part) : Nat → Part
  | 0, counts, w => atom whole counts w
  | fuel + 1, counts, w =>
    let part := asked whole fuel
    match w.left with
    | "+" :: left => do
      let (a, rest) ← next ⟨left, "+"⟩
      return (.text a, rest)
    | "length" :: left => do
      let (a, rest) ← part counts ⟨left, "length"⟩
      return (.number a.toText.length, rest)
    | "match" :: left => do
      let (a, rest) ← part counts ⟨left, "match"⟩
      let (b, rest) ← part counts rest
      return (← if counts then matched a.toText b.toText else .ok a, rest)
    | "index" :: left => do
      let (a, rest) ← part counts ⟨left, "index"⟩
      let (b, rest) ← part counts rest
      let place := (a.toText.toList.findIdx? fun c => b.toText.toList.contains c).map (· + 1)
      return (.number ((place.getD 0 : Nat) : Int), rest)
    | "substr" :: left => do
      let (a, rest) ← part counts ⟨left, "substr"⟩
      let (p, rest) ← part counts rest
      let (n, rest) ← part counts rest
      return (.text (piece a.toText p n), rest)
    | _ => atom whole counts w

/-- Parts joined by operators, from the left. -/
def chain (operators : List String) (part : Part)
    (join : String → Worth → Worth → Except ExprFault Worth) : Part := fun counts w => do
  let (a, rest) ← part counts w
  go counts (rest.left.length + 1) a rest
where
  go (counts : Bool) : Nat → Worth → Words → Except ExprFault (Worth × Words)
    | 0, a, w => return (a, w)
    | fuel + 1, a, w =>
      match w.left with
      | op :: left =>
        if operators.contains op then do
          let (b, rest) ← part counts ⟨left, op⟩
          let value ← if counts then join op a b else pure a
          go counts fuel value rest
        else return (a, w)
      | [] => return (a, w)

def reckon (op : String) (a b : Worth) : Except ExprFault Worth := do
  match a.number?, b.number? with
  | some x, some y =>
    match op with
    | "+" => return .number (x + y)
    | "-" => return .number (x - y)
    | "*" => return .number (x * y)
    | "/" => if y = 0 then throw .zero else return .number (x.tdiv y)
    | _ => if y = 0 then throw .zero else return .number (x.tmod y)
  | _, _ => throw .notNumber

def related (op : String) (a b : Worth) : Except ExprFault Worth :=
  let o := a.compare b
  let isSo : Bool :=
    match op with
    | "<" => o == .lt
    | "<=" => o != .gt
    | "=" | "==" => o == .eq
    | "!=" => o != .eq
    | ">" => o == .gt
    | _ => o != .lt
  .ok (.number (if isSo then 1 else 0))

/-- Parts joined by an ampersand: the first, if all count for something. -/
def both (part : Part) : Part := fun counts w => do
  let (a, rest) ← part counts w
  go counts (rest.left.length + 1) a rest
where
  go (counts : Bool) : Nat → Worth → Words → Except ExprFault (Worth × Words)
    | 0, a, w => return (a, w)
    | fuel + 1, a, w =>
      match w.left with
      | "&" :: left => do
        let (b, rest) ← part (counts && !a.isNull) ⟨left, "&"⟩
        go counts fuel (if a.isNull || b.isNull then .number 0 else a) rest
      | _ => return (a, w)

/-- Parts joined by a bar: the first that counts for something. -/
def either (part : Part) : Part := fun counts w => do
  let (a, rest) ← part counts w
  go counts (rest.left.length + 1) a rest
where
  go (counts : Bool) : Nat → Worth → Words → Except ExprFault (Worth × Words)
    | 0, a, w => return (a, w)
    | fuel + 1, a, w =>
      match w.left with
      | "|" :: left => do
        let (b, rest) ← part (counts && a.isNull) ⟨left, "|"⟩
        go counts fuel (if !a.isNull then a else if b.isNull then .number 0 else b) rest
      | _ => return (a, w)

/-- A whole expression, with so many levels of parentheses. -/
def whole : Nat → Part
  | 0 => fun _ w => .error (.missingAfter w.before)
  | fuel + 1 => fun counts w =>
    let size := w.left.length + 1
    let matching := chain [":"] (asked (whole fuel) size) fun _ a b => matched a.toText b.toText
    let products := chain ["*", "/", "%"] matching reckon
    let sums := chain ["+", "-"] products reckon
    either (both (chain ["<", "<=", "=", "==", "!=", ">=", ">"] sums related)) counts w

/-- The value of words. -/
def eval (args : List String) : Except ExprFault Worth := do
  if args.isEmpty then throw .missing
  match ← whole (args.length + 1) true ⟨args, "expr"⟩ with
  | (value, ⟨[], _⟩) => return value
  | (_, ⟨a :: _, _⟩) => throw (.unexpected a)

end Expression

def expr (args : List String) : Tool Nat := do
  let args := match args with | "--" :: args => args | args => args
  match Expression.eval args with
  | .ok value => do
    sayLine value.toText
    return if value.isNull then 1 else 0
  | .error .missing => misused ExprFault.missing.message
  | .error fault => giveUp 2 fault.message

end Ensemble.Utility
