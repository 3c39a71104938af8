import Ensemble.Shell.Condition
import Ensemble.Shell.Numeral
import Ensemble.Utility.Basic
import Ensemble.Utility.Quotation

/-!
# Ensemble.Utility.Testing

**Conditions** as a program of their own: `test`, also called `[`. Up to four words are taken for what
their number says, and more are read by their operators.
-/

namespace Ensemble.Utility

open Shell (Facts Numeral)
open Shell.Condition (unary binary isBinary)

namespace Testing

/-- Complain about a condition, and end. -/
def wrong (told : String) : Tool α :=
  giveUp 2 told

/-- How the machine is asked. -/
def facts : Facts Tool where
  number s := do
    match Numeral.read? 10 s.toList with
    | some ⟨n, rest⟩ =>
      if rest.all Numeral.isSpace then return n else wrong ("invalid integer " ++ quoted s)
    | none => wrong ("invalid integer " ++ quoted s)
  status follow path := do
    return (← ask (.status path follow)).toOption
  isTerminal _ := return false
  misused _ told := wrong told

/-- The words that are left, and the one before them. -/
abbrev Words := List String × String

/-- The words behind the first. -/
def rest : Words → Words
  | ([], before) => ([], before)
  | (a :: left, _) => (left, a)

/-- Complain that words are missing. -/
def beyond (before : String) : Tool α :=
  wrong ("missing argument after " ++ quoted before)

def isShort (s : String) : Bool :=
  s.length = 2 && s.toList.head? == some '-'

/-- A question about one operand. -/
def oneOperand : Words → Tool (Bool × Words)
  | (op :: a :: left, _) => do
    if ["-n", "-z", "-t"].contains op || (Shell.Condition.ofPlace? op).isSome then
      return (← unary facts op a, (left, a))
    wrong (quoted op ++ ": unary operator expected")
  | (op :: _, _) => do
    if ["-n", "-z", "-t"].contains op || (Shell.Condition.ofPlace? op).isSome then beyond op
    wrong (quoted op ++ ": unary operator expected")
  | ([], before) => beyond before

/-- A question about two operands. -/
def twoOperands : Words → Tool (Bool × Words)
  | (a :: op :: b :: left, _) => do return (← binary facts a (if op = "==" then "=" else op) b, (left, b))
  | (_, before) => beyond before

/-- Does a word join two operands? An order of texts is not asked about. -/
def isJoint (s : String) : Bool :=
  (isBinary s && !(["<", ">"].contains s)) || s == "=="

/-- A word by itself. -/
def word : Words → Tool (Bool × Words)
  | (a :: left, _) => return (a != "", (left, a))
  | ([], before) => beyond before

mutual

/-- A condition of so many words. -/
def ofCount : Nat → Nat → Words → Tool (Bool × Words)
  | 0, _, w => beyond w.2
  | fuel + 1, count, w =>
    match count, w.1 with
    | 1, _ => word w
    | 2, "!" :: _ => do
      let (value, w) ← word (rest w)
      return (!value, w)
    | 2, a :: _ => if isShort a then oneOperand w else beyond (w.1.getLastD w.2)
    | 3, a :: op :: more =>
      if isJoint op then twoOperands w
      else if a = "!" then do
        let (value, w) ← ofCount fuel 2 (rest w)
        return (!value, w)
      else if a = "(" && more.head? == some ")" then do
        let (value, w) ← word (rest w)
        return (value, rest w)
      else if op = "-a" || op = "-o" then disjunction fuel w
      else wrong (quoted op ++ ": binary operator expected")
    | 4, a :: _ =>
      if a = "!" then do
        let (value, w) ← ofCount fuel 3 (rest w)
        return (!value, w)
      else if a = "(" && w.1[3]? == some ")" then do
        let (value, w) ← ofCount fuel 2 (rest w)
        return (value, rest w)
      else disjunction fuel w
    | _, _ => disjunction fuel w

/-- A condition without joints. -/
def term : Nat → Words → Tool (Bool × Words)
  | 0, w => beyond w.2
  | fuel + 1, w =>
    match w.1 with
    | [] => beyond w.2
    | "!" :: _ => do
      let (value, w) ← term fuel (rest w)
      return (!value, w)
    | "(" :: left => do
      let inside := left.take 4
      let count := match inside.drop 1 |>.findIdx? (· == ")") with
        | some n => n + 1
        | none => if left.length ≤ 4 then left.length else left.length
      let (value, w) ← ofCount fuel count (left, "(")
      match w.1 with
      | [] => wrong (quoted ")" ++ " expected")
      | ")" :: _ => return (value, rest w)
      | a :: _ => wrong (quoted ")" ++ " expected, found " ++ quoted a)
    | a :: op :: _ :: _ =>
      if isJoint op then twoOperands w else if isShort a then oneOperand w else word w
    | a :: _ => if isShort a then oneOperand w else word w

/-- Conditions that must all hold. -/
def conjunction : Nat → Words → Tool (Bool × Words)
  | 0, w => beyond w.2
  | fuel + 1, w => do
    let (a, w) ← term fuel w
    match w.1 with
    | "-a" :: _ => do
      let (b, w) ← conjunction fuel (rest w)
      return (a && b, w)
    | _ => return (a, w)

/-- Conditions of which one must hold. -/
def disjunction : Nat → Words → Tool (Bool × Words)
  | 0, w => beyond w.2
  | fuel + 1, w => do
    let (a, w) ← conjunction fuel w
    match w.1 with
    | "-o" :: _ => do
      let (b, w) ← disjunction fuel (rest w)
      return (a || b, w)
    | _ => return (a, w)

end

/-- Does a condition hold? -/
def holds (args : List String) : Tool Nat := do
  if args.isEmpty then return 1
  let name := (← get).name
  let (value, w) ← ofCount (4 * args.length + 8) args.length (args, name)
  match w.1 with
  | [] => return if value then 0 else 1
  | extra :: _ => wrong ("extra argument " ++ quoted extra)

end Testing

def test (args : List String) : Tool Nat :=
  Testing.holds args

/-- The same, between brackets. -/
def bracketTest (args : List String) : Tool Nat := do
  if args.getLast? != some "]" then giveUp 2 ("missing " ++ quoted "]")
  Testing.holds args.dropLast

end Ensemble.Utility
