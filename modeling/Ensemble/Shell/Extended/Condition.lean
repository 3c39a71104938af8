import Ensemble.Shell.Condition
import Ensemble.Shell.Extended.Builtin.Basic
import Ensemble.Text.Regex.Reader

/-!
# Ensemble.Shell.Extended.Condition

**Conditions of the extended dialect.** The arguments of `test` are taken for what their number makes them;
only of many arguments a condition with joints is read. Between double brackets a condition has been read
with the script, and its words are expanded when they are asked for.
-/

namespace Ensemble.Shell.Extended

namespace Condition

/-! ### Questions -/

/-- The questions about one word. -/
def isUnary (s : String) : Bool :=
  match s.toList with
  | ['-', c] => "abcdefghknoprstuvwxzGLNORS".toList.contains c
  | _ => false

/-- The questions about two words. -/
def isBinary (s : String) : Bool :=
  ["=", "==", "!=", "<", ">", "-nt", "-ot", "-ef"].contains s || (Shell.Condition.comparison? s).isSome

/-- Has a name a value, or a place in it? -/
def isSet (text : String) : Act Bool := do
  let (name, key) := nameAndPlace text
  refresh name
  let s ← get
  let isNumber := text != "" && text.toList.all Char.isDigit
  if isNumber then return (Expansion.single s text).isSome
  match key with
  | none => return (s.value? name).isSome
  | some key =>
    match (s.declared? (s.target name)).bind (·.elements) with
    | some e => if key = "@" || key = "*" then return !e.values.isEmpty
    | none => pure ()
    return (← elementAt name key (return (← evaluate "" key).toInt)).isSome

/-- The questions about one operand. -/
def unary (operator operand : String) : Act Bool := do
  let status (follow : Bool) : Act (Option Status) := return (← ask (.status operand follow)).toOption
  match operator with
  | "-n" => return operand != ""
  | "-z" => return operand == ""
  | "-t" => return false
  | "-v" => isSet operand
  | "-R" => return ((← get).declared? operand).any fun v => v.refers && v.value.isSome
  | "-o" => do
    let modes := (← get).modes
    return (Mode.extended.find? (·.name == operand)).any fun mode => mode.get modes
  | "-a" => return (← status true).isSome
  | "-N" => return (← status true).isSome
  | op =>
    match Shell.Condition.ofPlace? op with
    | some q => return (← status (op != "-h" && op != "-L")).any q
    | none => return false

/-- The questions about two places. -/
def places (a operator b : String) : Act Bool := do
  let one := (← ask (.status a true)).toOption
  let two := (← ask (.status b true)).toOption
  match operator, one, two with
  | "-ef", some s, some t => return s.number == t.number
  | "-nt", some s, some t => return decide (t.time < s.time)
  | "-ot", some s, some t => return decide (s.time < t.time)
  | "-nt", some _, none | "-ot", none, some _ => return true
  | _, _, _ => return false

/-- Complain about the arguments of `test`. -/
def wrong (told : String) : Act α := do
  complainAt told
  fail 2

/-- The number that an argument of `test` must be. -/
def numberFor (text : String) : Act Int := do
  match number? text with
  | some n => return n
  | none => wrong (text ++ ": integer expression expected")

/-- The questions of `test` about two operands. -/
def binary (a operator b : String) : Act Bool := do
  match operator with
  | "=" | "==" => return a == b
  | "!=" => return a != b
  | "<" => return decide (a < b)
  | ">" => return decide (b < a)
  | op =>
    match Shell.Condition.comparison? op with
    | some q => return q (← numberFor a) (← numberFor b)
    | none => places a op b

/-! ### Arguments -/

/-- A condition of many arguments without joints, and the arguments behind it; `whole` reads what stands in
parentheses, and `closing` stands behind the last argument. -/
def part (whole : List String → Act (Bool × List String)) (closing : String) :
    List String → Act (Bool × List String)
  | [] => wrong "argument expected"
  | "!" :: args => do
    let (value, rest) ← part whole closing args
    return (!value, rest)
  | "(" :: args => do
    let (value, rest) ← whole args
    match rest with
    | ")" :: rest => return (value, rest)
    | a :: _ => wrong ("\x60)' expected, found " ++ a)
    | [] => wrong ("\x60)' expected" ++ if closing = "" then "" else ", found " ++ closing)
  | a :: op :: b :: rest => do
    if isBinary op then return (← binary a op b, rest)
    if isUnary a then return (← unary a op, b :: rest)
    return (a != "", op :: b :: rest)
  | [a, b] => do
    if isUnary a then return (← unary a b, [])
    return (a != "", [b])
  | [a] => return (a != "", [])

/-- Conditions joined by a joint, of which all or one have to hold. -/
def joined (joint : String) (all : Bool) (one : List String → Act (Bool × List String)) :
    Nat → List String → Act (Bool × List String)
  | 0, args => one args
  | fuel + 1, args => do
    let (a, rest) ← one args
    match rest with
    | j :: rest =>
      if j = joint then
        let (b, rest) ← joined joint all one fuel rest
        return (if all then a && b else a || b, rest)
      else return (a, j :: rest)
    | [] => return (a, [])

/-- A condition of many arguments, with so many levels of parentheses. -/
def whole (closing : String) : Nat → List String → Act (Bool × List String)
  | 0, _ => wrong "argument expected"
  | fuel + 1, args =>
    let size := args.length
    joined "-o" false (joined "-a" true (part (whole closing fuel) closing) size) size args

/-- The value of two arguments. -/
def ofTwo (a b : String) : Act Bool := do
  if a = "!" then return b == ""
  if isUnary a then return ← unary a b
  wrong (a ++ ": unary operator expected")

/-- The value of three arguments. -/
def ofThree (a op b : String) : Act Bool := do
  if isBinary op then return ← binary a op b
  if op = "-a" then return a != "" && b != ""
  if op = "-o" then return a != "" || b != ""
  if a = "!" then return !(← ofTwo op b)
  if a = "(" && b = ")" then return op != ""
  wrong (op ++ ": binary operator expected")

/-- The value of arguments. -/
def ofWords (closing : String) (args : List String) : Act Bool := do
  let asWhole : Act Bool := do
    match ← whole closing (args.length + 1) args with
    | (value, []) => return value
    | (_, a :: _) =>
      if a.toList.head? == some '-' then wrong ("syntax error: \x60" ++ a ++ "' unexpected")
      wrong "too many arguments"
  match args with
  | [] => return false
  | [a] => return a != ""
  | [a, b] => ofTwo a b
  | [a, b, c] => ofThree a b c
  | [a, b, c, d] =>
    if a = "!" then return !(← ofThree b c d)
    if a = "(" && d = ")" then return ← ofTwo b c
    asWhole
  | _ => asWhole

end Condition

/-! ### Conditions of a script -/

/-- The expression of a word: what is quoted in it stands for itself. -/
def regexText (cells : List Cell) : String :=
  .ofList (cells.flatMap fun
    | .char c true _ =>
      if "\\^$.[]|()*+?\x7b\x7d".toList.contains c then ['\x5c', c] else [c]
    | .char c false _ => [c]
    | .gap | .cut => [' ']
    | _ => [])

/-- Does a text match an expression? What its groups have matched is kept. None if the expression has a
fault. -/
def matchRegex (text expression : String) : Act (Option Bool) := do
  let fold := (← get).toggles.contains "nocasematch"
  match Text.Regex.ofString
      { extended := true, strict := false, strictBraces := false, strictRanges := false } expression with
  | .error _ => return none
  | .ok r => do
    let sight : Text.Sight :=
      { text := text.toList.toArray, remembers := 0 < r.groups || r.remembers, ignoresCase := fold }
    match r.regex.search sight 0 with
    | none => do
      setRow "BASH_REMATCH" []
      return some false
    | some found => do
      setRow "BASH_REMATCH" ((List.range (r.groups + 1)).map fun n =>
        .ofList (Text.Regex.textOf sight.text found n))
      return some true

/-- The value of a condition between double brackets; none if an expression in it has a fault. -/
def holdsTest (run : Expansion.Scripts) (tell : String → Act Unit) : Test → Act (Option Bool)
  | .negated t => do return (← holdsTest run tell t).map (!·)
  | .both a b => do
    match ← holdsTest run tell a with
    | some true => holdsTest run tell b
    | found => return found
  | .either a b => do
    match ← holdsTest run tell a with
    | some false => holdsTest run tell b
    | found => return found
  | .unary op w => do
    let text ← Expansion.text run { home := true } w
    tell ("[[ " ++ op ++ " " ++ (if text = "" then "''" else text) ++ " ]]")
    return some (← Condition.unary op text)
  | .binary op a b => do
    let text ← Expansion.text run { home := true } a
    let cells ← Expansion.spell run { home := true } b
    let other := String.ofList (Field.text cells)
    let isPattern := op = "=" || op = "==" || op = "!="
    let shown :=
      if isPattern then String.ofList (Field.pattern cells)
      else if op = "=~" then regexText cells
      else other
    tell ("[[ " ++ (if text = "" then "''" else text) ++ " " ++ op ++ " " ++
      (if shown = "" then "''" else shown) ++ " ]]")
    if isPattern then
      let fold := (← get).toggles.contains "nocasematch"
      let g := Glob.ofChars true fold (Field.pattern cells)
      return some (g.isMatch text.toList != (op = "!="))
    match op with
    | "=~" => matchRegex text (regexText cells)
    | "<" => return some (decide (text < other))
    | ">" => return some (decide (other < text))
    | op =>
      match Shell.Condition.comparison? op with
      | some q => do
        let x ← evaluate "[[: " text
        let y ← evaluate "[[: " other
        return some (q x.toInt y.toInt)
      | none => return some (← Condition.places text op other)

end Ensemble.Shell.Extended
