import Ensemble.Shell.Numeral
import Ensemble.Shell.Syntax

/-!
# Ensemble.Shell.Arithmetic

**Arithmetic** in scripts: whole numbers of 64 bits that wrap around, the operators of C with their
ranks, and assignments to variables. An expression is cut into tokens and evaluated as it is read,
so what comes first, be it a fault of its form or of its value, is what is told. The operands that
`&&`, `||` and `?:` pass over are read in the same way, but nothing is looked up or assigned for
them.
-/

namespace Ensemble.Shell

/-- The operators between two operands. -/
inductive Operator
  | mul | div | mod | add | sub | shiftLeft | shiftRight
  | lt | le | gt | ge | eq | ne
  | bitAnd | bitXor | bitOr
deriving DecidableEq, Repr

/-- Why an expression has no value. -/
inductive SumFault
  | noPrimary
  | noParenthesis
  | noColon
  | trailing
  | divisionByZero
  /-- A quotient that is no number of 64 bits. -/
  | overflow
deriving DecidableEq, Repr

namespace Arithmetic

/-! ### Tokens -/

inductive Token
  | number (n : Int64)
  | name (s : String)
  | mark (s : String)
deriving DecidableEq, Repr

/-- The marks, the longer ones first. -/
def marks : List String :=
  ["<<=", ">>=", "&&", "||", "<<", ">>", "<=", ">=", "==", "!=", "+=", "-=", "*=", "/=", "%=",
    "&=", "|=", "^=", "+", "-", "*", "/", "%", "<", ">", "=", "!", "~", "&", "|", "^", "?", ":",
    "(", ")"]

/-- The number of 64 bits that is nearest. -/
def nearest (n : Nat) : Int64 :=
  Int64.ofInt (Numeral.clamp Numeral.least Numeral.greatest n)

/-- Cut an expression into tokens. A character that means nothing is a mark of its own. -/
def tokens : Nat → List Char → List Token
  | 0, _ => []
  | _, [] => []
  | fuel + 1, c :: cs =>
    if c == ' ' || c == '\t' || c == '\n' then tokens fuel cs
    else if c.isDigit then
      let (n, rest) := Numeral.marked (c :: cs)
      .number (nearest n) :: tokens fuel rest
    else if isNameStart c then
      let word := (c :: cs).takeWhile isNameChar
      .name (.ofList word) :: tokens fuel ((c :: cs).drop word.length)
    else
      match marks.find? fun m => m.toList.isPrefixOf (c :: cs) with
      | some m => .mark m :: tokens fuel ((c :: cs).drop m.length)
      | none => .mark c.toString :: tokens fuel cs

/-! ### Operators -/

/-- An operator and its rank; a lower rank binds closer. -/
def operator? : String → Option (Operator × Nat)
  | "*" => some (.mul, 0)
  | "/" => some (.div, 0)
  | "%" => some (.mod, 0)
  | "+" => some (.add, 1)
  | "-" => some (.sub, 1)
  | "<<" => some (.shiftLeft, 2)
  | ">>" => some (.shiftRight, 2)
  | "<" => some (.lt, 3)
  | "<=" => some (.le, 3)
  | ">" => some (.gt, 3)
  | ">=" => some (.ge, 3)
  | "==" => some (.eq, 4)
  | "!=" => some (.ne, 4)
  | "&" => some (.bitAnd, 5)
  | "^" => some (.bitXor, 6)
  | "|" => some (.bitOr, 7)
  | _ => none

/-- The rank of what binds least. -/
def lowestRank : Nat := 8

/-- The operator in an assignment mark. -/
def assignment? : String → Option (Option Operator)
  | "=" => some none
  | "+=" => some (some .add)
  | "-=" => some (some .sub)
  | "*=" => some (some .mul)
  | "/=" => some (some .div)
  | "%=" => some (some .mod)
  | "<<=" => some (some .shiftLeft)
  | ">>=" => some (some .shiftRight)
  | "&=" => some (some .bitAnd)
  | "|=" => some (some .bitOr)
  | "^=" => some (some .bitXor)
  | _ => none

def ofBool (b : Bool) : Int64 := if b then 1 else 0

/-- The value of two operands. -/
def Operator.apply (op : Operator) (a b : Int64) : Except SumFault Int64 :=
  let divide (q : Int64) : Except SumFault Int64 :=
    if b = 0 then .error .divisionByZero
    else if a = Int64.minValue ∧ b = -1 then .error .overflow
    else .ok q
  match op with
  | .mul => .ok (a * b)
  | .div => divide (a / b)
  | .mod => divide (a % b)
  | .add => .ok (a + b)
  | .sub => .ok (a - b)
  | .shiftLeft => .ok (a <<< b)
  | .shiftRight => .ok (a >>> b)
  | .lt => .ok (ofBool (a < b))
  | .le => .ok (ofBool (a ≤ b))
  | .gt => .ok (ofBool (b < a))
  | .ge => .ok (ofBool (b ≤ a))
  | .eq => .ok (ofBool (a == b))
  | .ne => .ok (ofBool (a != b))
  | .bitAnd => .ok (a &&& b)
  | .bitXor => .ok (a ^^^ b)
  | .bitOr => .ok (a ||| b)

/-! ### Values -/

/-- Where names have values, and what is done about a fault. -/
structure Names (m : Type → Type) where
  get : String → m Int64
  put : String → Int64 → m Unit
  fail : SumFault → m Int64

/-- A value that is read off tokens. The switch tells whether it counts. -/
abbrev Eval (m : Type → Type) := Bool → List Token → m (Int64 × List Token)

section
variable {m : Type → Type} [Monad m] (names : Names m)

def fault (f : SumFault) (ts : List Token) : m (Int64 × List Token) := do
  return (← names.fail f, ts)

def applied (op : Operator) (a b : Int64) : m Int64 :=
  match Operator.apply op a b with
  | .ok n => return n
  | .error f => names.fail f

/-- An operand, given the way to evaluate whole expressions. -/
def operand (whole : Eval m) : Nat → Eval m
  | 0, _, ts => fault names .noPrimary ts
  | fuel + 1, live, ts =>
    let signed (f : Int64 → Int64) (ts : List Token) : m (Int64 × List Token) := do
      let (a, ts) ← operand whole fuel live ts
      return (f a, ts)
    match ts with
    | .number n :: ts => return (n, ts)
    | .name s :: ts => do
      if live then return (← names.get s, ts) else return (0, ts)
    | .mark "(" :: ts => do
      let (a, ts) ← whole live ts
      match ts with
      | .mark ")" :: ts => return (a, ts)
      | ts => fault names .noParenthesis ts
    | .mark "+" :: ts => signed id ts
    | .mark "-" :: ts => signed (- ·) ts
    | .mark "!" :: ts => signed (fun a => ofBool (a == 0)) ts
    | .mark "~" :: ts => signed (~~~ ·) ts
    | ts => fault names .noPrimary ts

/-- The operator at the beginning of tokens. -/
def operatorAt? : List Token → Option (Operator × Nat × List Token)
  | .mark m :: ts => (operator? m).map fun (op, rank) => (op, rank, ts)
  | _ => none

/-- What follows an operand and an operator: operators that bind closer than the rank `limit`. -/
def joinedFrom (operand : Eval m) (live : Bool) :
    Nat → Nat → Int64 → Operator → Nat → List Token → m (Int64 × List Token)
  | 0, _, a, _, _, ts => return (a, ts)
  | fuel + 1, limit, a, op, rank, ts => do
    let (b, ts) ← operand live ts
    let (b, ts) ←
      match operatorAt? ts with
      | some (op', rank', rest) =>
        if rank' < rank then joinedFrom operand live fuel rank b op' rank' rest else pure (b, ts)
      | none => pure (b, ts)
    let value ← if live then applied names op a b else pure b
    match operatorAt? ts with
    | some (op', rank', rest) =>
      if limit ≤ rank' then return (value, ts)
      else joinedFrom operand live fuel limit value op' rank' rest
    | none => return (value, ts)

/-- Operands joined by operators of any rank. -/
def joined (operand : Eval m) : Eval m := fun live ts => do
  let (a, ts) ← operand live ts
  match operatorAt? ts with
  | some (op, rank, rest) => joinedFrom names operand live (ts.length + 1) lowestRank a op rank rest
  | none => return (a, ts)

/-- Conditions that all have to hold. -/
def both (part : Eval m) : Nat → Eval m
  | 0, live, ts => part live ts
  | fuel + 1, live, ts => do
    let (a, ts) ← part live ts
    match ts with
    | .mark "&&" :: ts => do
      let (b, ts) ← both part fuel (live && a != 0) ts
      return (ofBool (a != 0 && b != 0), ts)
    | ts => return (a, ts)

/-- Conditions of which one has to hold. -/
def either (part : Eval m) : Nat → Eval m
  | 0, live, ts => part live ts
  | fuel + 1, live, ts => do
    let (a, ts) ← part live ts
    match ts with
    | .mark "||" :: ts => do
      let (b, ts) ← either part fuel (live && a == 0) ts
      return (ofBool (a != 0 || b != 0), ts)
    | ts => return (a, ts)

/-- A choice between two expressions, if a test stands before them. -/
def choice (whole part : Eval m) : Nat → Eval m
  | 0, live, ts => part live ts
  | fuel + 1, live, ts => do
    let (test, ts) ← part live ts
    match ts with
    | .mark "?" :: ts => do
      let (a, ts) ← whole (live && test != 0) ts
      match ts with
      | .mark ":" :: ts => do
        let (b, ts) ← choice whole part fuel (live && test == 0) ts
        return (if test != 0 then a else b, ts)
      | ts => fault names .noColon ts
    | ts => return (test, ts)

/-- The value of a whole expression; so many levels of it. -/
def whole : Nat → Eval m
  | 0, _, ts => fault names .noPrimary ts
  | fuel + 1, live, ts => do
    let assigned :=
      match ts with
      | .name s :: .mark m :: rest => (assignment? m).map fun op => (s, op, rest)
      | _ => none
    match assigned with
    | some (s, op, rest) => do
      let (b, rest) ← whole fuel live rest
      if !live then return (b, rest)
      let n ←
        match op with
        | none => pure b
        | some op => do applied names op (← names.get s) b
      names.put s n
      return (n, rest)
    | none =>
      let size := ts.length + 1
      let part := joined names (operand names (whole fuel) size)
      choice names (whole fuel) (either (both part size) size) size live ts

/-- The value of the text of an expression. -/
def eval (text : String) : m Int64 := do
  let ts := tokens (text.length + 1) text.toList
  let (n, rest) ← whole names (ts.length + 1) true ts
  if rest.isEmpty then return n else names.fail .trailing

end

end Arithmetic

/-- What is wrong with an expression. -/
def SumFault.message : SumFault → String
  | .noPrimary => "expecting primary"
  | .noParenthesis => "expecting ')'"
  | .noColon => "expecting ':'"
  | .trailing => "expecting EOF"
  | .divisionByZero => "division by zero"
  | .overflow => "overflow"

end Ensemble.Shell
