import Ensemble.Machine.Call

/-!
# Ensemble.Shell.Condition

**Conditions**, as `test` evaluates its arguments: questions about texts, numbers and places in the
tree, joined by `-a`, `-o`, `!` and parentheses. What a word is depends on the words behind it, so words
are told apart where they stand (`lexeme`). What has to be looked up is asked of `Facts`.
-/

namespace Ensemble.Shell

/-- How a condition asks for what it is about. -/
structure Facts (m : Type → Type) where
  number : String → m Int
  /-- What is at a path; a link at its end may be followed. -/
  status : Bool → String → m (Option Status)
  isTerminal : Int → m Bool
  /-- Complain about a word, if there is one, and give up. -/
  misused : Option String → String → m Bool

namespace Condition

variable {m : Type → Type} [Monad m] (facts : Facts m)

/-- Has a place this bit in its mode? -/
def hasBit (bit : Nat) (s : Status) : Bool :=
  (s.mode &&& bit) != 0

/-- What the operators with one operand ask of a place. -/
def ofPlace? : String → Option (Status → Bool)
  | "-e" | "-r" | "-w" | "-O" | "-G" => some fun _ => true
  | "-f" => some (·.kind = .file)
  | "-d" => some (·.kind = .directory)
  | "-c" => some (·.kind = .device)
  | "-p" => some (·.kind = .queue)
  | "-h" | "-L" => some (·.kind = .link)
  | "-s" => some (·.size != 0)
  | "-x" => some fun s => s.kind = .directory || hasBit 0o111 s
  | "-u" => some (hasBit 0o4000)
  | "-g" => some (hasBit 0o2000)
  | "-k" => some (hasBit 0o1000)
  | "-b" | "-S" => some fun _ => false
  | _ => none

/-- The questions about one operand. -/
def unary (operator operand : String) : m Bool := do
  match operator with
  | "-n" => return operand != ""
  | "-z" => return operand == ""
  | "-t" => facts.isTerminal (← facts.number operand)
  | _ =>
    match ofPlace? operator with
    | some q => return (← facts.status (operator != "-h" && operator != "-L") operand).any q
    | none => return false

/-- How the operators between two operands compare numbers. -/
def comparison? : String → Option (Int → Int → Bool)
  | "-eq" => some fun x y => x == y
  | "-ne" => some fun x y => x != y
  | "-lt" => some fun x y => decide (x < y)
  | "-le" => some fun x y => decide (x ≤ y)
  | "-gt" => some fun x y => decide (y < x)
  | "-ge" => some fun x y => decide (y ≤ x)
  | _ => none

/-- The questions about two operands. -/
def binary (a operator b : String) : m Bool := do
  let places (q : Status → Status → Bool) : m Bool := do
    match ← facts.status true a, ← facts.status true b with
    | some s, some t => return q s t
    | _, _ => return false
  match operator with
  | "=" => return a == b
  | "!=" => return a != b
  | "<" => return decide (a < b)
  | ">" => return decide (b < a)
  | "-ef" => places fun s t => s.number == t.number
  | "-nt" => places fun s t => decide (t.time < s.time)
  | "-ot" => places fun s t => decide (s.time < t.time)
  | _ =>
    match comparison? operator with
    | some q => return q (← facts.number a) (← facts.number b)
    | none => return false

/-! ### Words -/

/-- What a word is where it stands. -/
inductive Lexeme
  | finish
  | unary
  | binary
  | denial
  | also
  | either
  | opening
  | closing
  | operand
deriving DecidableEq, Repr

def isUnary (s : String) : Bool :=
  ["-n", "-z", "-t"].contains s || (ofPlace? s).isSome

def isBinary (s : String) : Bool :=
  ["=", "!=", "<", ">", "-ef", "-nt", "-ot"].contains s || (comparison? s).isSome

/-- What the first of these words is. A question about one operand needs one behind it, and the next
word is no operand if it stands between two others and asks about both. -/
def lexeme : List String → Lexeme
  | [] => .finish
  | s :: rest =>
    if isUnary s then
      match rest with
      | [] => .operand
      | [_] => .unary
      | next :: _ => if isBinary next then .operand else .unary
    else if isBinary s then .binary
    else
      match s with
      | "!" => .denial
      | "-a" => .also
      | "-o" => .either
      | "(" => if rest.isEmpty then .operand else .opening
      | ")" => .closing
      | _ => .operand

/-! ### Conditions -/

/-- Reads a condition, whose first word is taken for what the lexeme says: the value, and the words
from the condition's last one on. -/
abbrev Parse (m : Type → Type) := Lexeme → List String → m (Bool × List String)

/-- A condition without joints; `whole` reads what stands in parentheses. -/
def primary (whole : Parse m) : Parse m
  | .finish, args => return (false, args)
  | .opening, args => do
    let inside := args.drop 1
    if lexeme inside = .closing then return (false, inside)
    let (value, args) ← whole (lexeme inside) inside
    if lexeme (args.drop 1) = .closing then return (value, args.drop 1)
    return (← facts.misused none "closing paren expected", args)
  | _, [] => return (false, [])
  | first, a :: rest =>
    match first, rest with
    | .unary, [] => return (← facts.misused (some a) "argument expected", rest)
    | .unary, operand :: _ => return (← unary facts a operand, rest)
    | _, operator :: operands =>
      if isBinary operator then
        match operands with
        | [] => return (← facts.misused (some operator) "argument expected", rest)
        | b :: _ => return (← binary facts a operator b, operands)
      else return (a != "", a :: rest)
    | _, [] => return (a != "", [a])

/-- A condition that may be denied. -/
def denied (whole : Parse m) : Nat → Parse m
  | fuel + 1, .denial, args => do
    let rest := args.drop 1
    let (value, rest) ← denied whole fuel (lexeme rest) (if rest.isEmpty then args else rest)
    return (!value, rest)
  | _, first, args => primary facts whole first args

/-- Conditions joined by a joint, of which it takes all or one to hold. -/
def joined (joint : Lexeme) (all : Bool) (part : Parse m) : Nat → Parse m
  | 0, first, args => part first args
  | fuel + 1, first, args => do
    let (a, args) ← part first args
    if lexeme (args.drop 1) = joint then
      let rest := args.drop 2
      let (b, rest) ← joined joint all part fuel (lexeme rest) rest
      return (if all then a && b else a || b, rest)
    else return (a, args)

/-- Conditions joined by `-o`, of conditions joined by `-a`; so many levels of parentheses. -/
def disjunction : Nat → Parse m
  | 0, _, args => return (← facts.misused none "argument expected", args)
  | fuel + 1, first, args =>
    let size := args.length + 1
    joined .either false (joined .also true (denied facts (disjunction fuel) size) size) size first args

/-- The value of words whose first one is taken for what the lexeme says. -/
def whole (first : Lexeme) (args : List String) : m Bool := do
  match ← disjunction facts (args.length + 1) first args with
  | (_, word :: _ :: _) => facts.misused (some word) "unexpected operator"
  | (value, _) => return value

/-- The value of a condition. Without words it is false. Three words with an operator between two
others are taken for just that; where that is not so, the first of three or four words can deny
the others, or stand in parentheses with the last. -/
def eval (denies : Bool) : List String → m Bool
  | [] => return denies
  | a :: args => do
    let size := args.length + 1
    let value ←
      if size = 3 && args.head?.any isBinary then whole facts .operand (a :: args)
      else if (size = 3 || size = 4) && a = "(" && args.getLast? = some ")" then
        whole facts (lexeme args.dropLast) args.dropLast
      else if (size = 3 || size = 4) && a = "!" then return ← eval true args
      else whole facts (lexeme (a :: args)) (a :: args)
    return value != denies

end Condition

end Ensemble.Shell
