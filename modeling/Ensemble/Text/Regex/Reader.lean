import Ensemble.Text.Regex.Basic

/-!
# Ensemble.Text.Regex.Reader

**Reading regular expressions**, in the basic and the extended spelling. In the basic one a backslash
gives parentheses, braces and bars their meaning; in the extended one it takes it away. What a
character means also depends on where it stands: a star repeats nothing at the beginning, and then
stands for itself, is passed over or is a fault, as the `Spelling` says.
-/

namespace Ensemble.Text

/-- Why a text is no regular expression. -/
inductive RegexFault
  | unknownClass
  | unknownElement
  | openBracket
  | openGroup
  | closedGroup
  | openBrace
  | brace
  | range
  | nothingRepeated
  | trailingBackslash
  | reference
  | tooBig
  | invalid
  /-- A class outside of its brackets. -/
  | bareClass
deriving DecidableEq, Repr

/-- The words for a fault. -/
def RegexFault.message : RegexFault → String
  | .unknownClass => "Invalid character class name"
  | .unknownElement => "Invalid collation character"
  | .openBracket => "Unmatched [, [^, [:, [., or [="
  | .openGroup => "Unmatched ( or \\("
  | .closedGroup => "Unmatched ) or \\)"
  | .openBrace => "Unmatched \\\x7b"
  | .brace => "Invalid content of \\\x7b\\\x7d"
  | .range => "Invalid range end"
  | .nothingRepeated => "Invalid preceding regular expression"
  | .trailingBackslash => "Trailing backslash"
  | .reference => "Invalid back reference"
  | .tooBig => "Regular expression too big"
  | .invalid => "Invalid regular expression"
  | .bareClass => "character class syntax is [[:space:]], not [:space:]"

/-- How regular expressions are spelled. -/
structure Spelling where
  extended : Bool := false
  ignoresCase : Bool := false
  /-- Is it a fault to repeat nothing? -/
  strict : Bool := true
  /-- Are braces a fault that repeat nothing? -/
  strictBraces : Bool := true
  /-- Do braces and parentheses stand for themselves where they do not fit? -/
  lenient : Bool := false
  /-- Is a range a fault whose ends are the wrong way around? -/
  strictRanges : Bool := true
  /-- Does only a line feed itself match a line feed? -/
  linesApart : Bool := false

namespace Regex

/-! ### Brackets -/

/-- A kind of characters by its name. -/
def ofClass? (name : String) : Option (Char → Bool) :=
  match name with
  | "alpha" => some (·.isAlpha)
  | "digit" => some (·.isDigit)
  | "alnum" => some (·.isAlphanum)
  | "upper" => some (·.isUpper)
  | "lower" => some (·.isLower)
  | "space" => some fun c => c == ' ' || (0x9 ≤ c.toNat && c.toNat ≤ 0xD)
  | "blank" => some fun c => c == ' ' || c == '\t'
  | "punct" => some fun c => 0x21 ≤ c.toNat && c.toNat ≤ 0x7E && !c.isAlphanum
  | "print" => some fun c => 0x20 ≤ c.toNat && c.toNat ≤ 0x7E
  | "graph" => some fun c => 0x21 ≤ c.toNat && c.toNat ≤ 0x7E
  | "cntrl" => some fun c => c.toNat < 0x20 || c.toNat = 0x7F
  | "xdigit" => some fun c => c.isDigit || ('a' ≤ c.toLower && c.toLower ≤ 'f')
  | _ => none

/-- What stands in brackets. -/
inductive Element
  | char (c : Char)
  | range (low high : Char)
  | kind (accepts : Char → Bool)

namespace Element

def accepts : Element → Char → Bool
  | .char c, x => x == c
  | .range low high, x => decide (low ≤ x) && decide (x ≤ high)
  | .kind f, x => f x

end Element

/-- The name between two marks, as in `[:name:]`, and what follows it. -/
def bracketName (mark : Char) : List Char → Option (List Char × List Char)
  | [] => none
  | [_] => none
  | c :: d :: cs =>
    if c == mark && d == ']' then some ([], cs)
    else (bracketName mark (d :: cs)).map fun (name, rest) => (c :: name, rest)

/-- One end of a range, or what stands for itself. -/
def element (cs : List Char) : Except RegexFault (Element × List Char) :=
  match cs with
  | [] => .error .openBracket
  | '[' :: ':' :: rest =>
    match bracketName ':' rest with
    | none => .error .openBracket
    | some (name, rest) =>
      match ofClass? (.ofList name) with
      | some f => .ok (.kind f, rest)
      | none => .error .unknownClass
  | '[' :: '.' :: rest => single '.' rest
  | '[' :: '=' :: rest => single '=' rest
  | c :: rest => .ok (.char c, rest)
where
  single (mark : Char) (rest : List Char) : Except RegexFault (Element × List Char) :=
    match bracketName mark rest with
    | some ([c], rest) => .ok (.char c, rest)
    | some _ => .error .unknownElement
    | none => .error .openBracket

/-- The first of some elements, and what follows it. -/
def firstElement (spelling : Spelling) (first : Bool) (cs : List Char) :
    Except RegexFault (Element × List Char) := do
  match first, cs with
  | false, '-' :: c :: _ => if c != ']' then throw .range
  | _, _ => pure ()
  let (low, rest) ← element cs
  match rest with
  | '-' :: ']' :: _ => return (low, rest)
  | ['-'] => throw .openBracket
  | '-' :: rest => do
    let (high, rest) ← element rest
    match low, high with
    | .char low, .char high =>
      if high < low && spelling.strictRanges then throw .range
      return (.range low high, rest)
    | _, _ => throw .range
  | rest => return (low, rest)

/-- The elements up to the closing bracket, and what follows it. -/
def elements (spelling : Spelling) :
    Nat → Bool → List Char → Except RegexFault (List Element × List Char)
  | 0, _, _ => .error .openBracket
  | _, _, [] => .error .openBracket
  | fuel + 1, first, c :: cs =>
    if c == ']' && !first then .ok ([], cs)
    else do
      let (e, rest) ← firstElement spelling first (c :: cs)
      let (more, rest) ← elements spelling fuel false rest
      return (e :: more, rest)

/-- Do these elements look like a class without its brackets? -/
def looksBare (es : List Element) : Bool :=
  let isColon : Option Element → Bool
    | some (.char ':') => true
    | _ => false
  isColon es.head? && isColon es.getLast? && (es.all fun | .char _ => true | _ => false) &&
    es.any fun | .char c => c != ':' | _ => false

/-- What a bracket expression accepts, after the opening bracket, and what follows it. -/
def bracketed (spelling : Spelling) (cs : List Char) :
    Except RegexFault ((Char → Bool) × List Char) := do
  let (negated, cs) := match cs with | '^' :: cs => (true, cs) | cs => (false, cs)
  if cs.isEmpty then throw .invalid
  let (es, rest) ← elements spelling (cs.length + 1) true cs
  if looksBare es then throw .bareClass
  let hit (c : Char) : Bool :=
    es.any fun e =>
      e.accepts c || (spelling.ignoresCase && (e.accepts c.toLower || e.accepts c.toUpper))
  let spared (c : Char) : Bool := negated && spelling.linesApart && c == '\n'
  return (fun c => hit c != negated && !spared c, rest)

/-! ### Symbols -/

/-- The symbols that mean something. -/
inductive Symbol
  | plain (c : Char)
  | any
  | edge (e : Edge)
  | star
  | plus
  | question
  | brace
  | opening
  | closing
  | bar
  | again (n : Nat)
  | kind (accepts : Char → Bool)
  | bracket

/-- The next symbol, without a look at where it stands. -/
def symbol? (extended : Bool) (cs : List Char) : Except RegexFault (Option (Symbol × List Char)) :=
  match cs with
  | [] => .ok none
  | ['\x5c'] => .error .trailingBackslash
  | '\x5c' :: c :: cs =>
    let special (s : Symbol) : Symbol := if extended then .plain c else s
    let space (x : Char) : Bool := x == ' ' || (0x9 ≤ x.toNat && x.toNat ≤ 0xD)
    let s : Symbol :=
      match c with
      | '(' => special .opening
      | ')' => special .closing
      | '\x7b' => special .brace
      | '|' => special .bar
      | '+' => special .plus
      | '?' => special .question
      | 'w' => .kind isWordChar
      | 'W' => .kind (!isWordChar ·)
      | 's' => .kind space
      | 'S' => .kind (!space ·)
      | '<' => .edge .wordStart
      | '>' => .edge .wordFinish
      | 'b' => .edge .word
      | 'B' => .edge .noWord
      | '\x60' => .edge .textStart
      | '\x27' => .edge .textFinish
      | c => if c.isDigit && c != '0' then .again (c.toNat - '0'.toNat) else .plain c
    .ok (some (s, cs))
  | c :: cs =>
    let special (s : Symbol) : Symbol := if extended then s else .plain c
    let s : Symbol :=
      match c with
      | '.' => .any
      | '*' => .star
      | '^' => .edge .lineStart
      | '$' => .edge .lineFinish
      | '[' => .bracket
      | '(' => special .opening
      | ')' => special .closing
      | '\x7b' => special .brace
      | '|' => special .bar
      | '+' => special .plus
      | '?' => special .question
      | c => .plain c
    .ok (some (s, cs))

/-- The greatest number of repetitions. -/
def repetitionLimit : Nat := 32767

/-- A number between braces, if there is one. -/
inductive Count
  | absent
  | bad
  | given (n : Nat)
deriving DecidableEq, Repr

/-- What stands behind a number between braces. -/
inductive CountEnd
  | finish
  | comma
  | brace
deriving DecidableEq, Repr

/-- A number with one more digit, as far as it has to be told from others. -/
def Count.push (n : Count) (c : Char) : Count :=
  if !c.isDigit then .bad
  else
    let d := c.toNat - '0'.toNat
    match n with
    | .absent => .given d
    | .bad => .bad
    | .given n => .given (min (repetitionLimit + 1) (n * 10 + d))

/-- Read a number between braces, what ends it, and what follows. -/
def count (extended : Bool) : Count → List Char → Count × CountEnd × List Char
  | _, [] => (.bad, .finish, [])
  | _, ['\x5c'] => (.bad, .finish, [])
  | n, '\x5c' :: c :: cs =>
    if !extended && c == '\x7d' then (n, .brace, cs) else count extended .bad cs
  | n, c :: cs =>
    if extended && c == '\x7d' then (n, .brace, cs)
    else if c == ',' then (n, .comma, cs)
    else count extended (n.push c) cs

/-- Limits of a repetition, and what follows the closing brace. -/
structure Limits where
  least : Nat
  most : Option Nat
  rest : List Char

/-- Limits, after the opening brace; none if the brace stands for itself. -/
def limits (spelling : Spelling) (cs : List Char) : Except RegexFault (Option Limits) :=
  let (first, firstEnd, rest) := count spelling.extended .absent cs
  let unfit (stop : CountEnd) : Except RegexFault (Option Limits) :=
    if spelling.lenient && spelling.extended then .ok none
    else .error (if stop = .finish then .openBrace else .brace)
  let settle (least : Nat) (most : Option Nat) (rest : List Char) :
      Except RegexFault (Option Limits) :=
    if most.any (fun most => decide (most < least)) then .error .brace
    else if repetitionLimit < most.getD least then .error .tooBig
    else .ok (some ⟨least, most, rest⟩)
  let behindComma (least : Nat) : Except RegexFault (Option Limits) :=
    match count spelling.extended .absent rest with
    | (.bad, stop, _) => unfit stop
    | (_, .comma, _) => .error .brace
    | (.absent, _, rest) => settle least none rest
    | (.given most, _, rest) => settle least (some most) rest
  match first, firstEnd with
  | .bad, stop => unfit stop
  | .absent, .comma => behindComma 0
  | .absent, _ => .error .brace
  | .given least, .comma => behindComma least
  | .given least, _ => settle least (some least) rest

/-! ### Expressions -/

/-- One expression behind another. -/
def join : Regex → Regex → Regex
  | .empty, b => b
  | a, .empty => a
  | a, b => .both a b

/-- What has been read of an expression, up to the end of the group it stands in. -/
structure Reading where
  /-- The alternatives that are complete. -/
  done : Option Regex := none
  /-- What stands before the last part. -/
  before : Regex := .empty
  /-- What a repetition would repeat. -/
  last : Option Regex := none
  /-- Has nothing been read of this alternative? -/
  fresh : Bool := true

namespace Reading

/-- The alternative that is being read. -/
def branch (r : Reading) : Regex :=
  join r.before (r.last.getD .empty)

/-- All alternatives. -/
def whole (r : Reading) : Regex :=
  match r.done with
  | none => r.branch
  | some d => .either d r.branch

def push (r : Reading) (part : Regex) : Reading :=
  { r with before := r.branch, last := some part, fresh := false }

/-- An edge is not repeated. -/
def pushEdge (r : Reading) (e : Edge) : Reading :=
  { r with before := join r.branch (.edge e), last := none, fresh := false }

/-- Begin another alternative. -/
def bar (r : Reading) : Reading :=
  { done := some r.whole }

end Reading

/-- What is known of the groups so far, and what is to be warned of, the last first. -/
structure Groups where
  count : Nat := 0
  closed : List Nat := []
  warnings : List String := []

/-- Does an alternative end here, in the basic spelling? -/
def endsBranch (cs : List Char) : Bool :=
  match cs with
  | [] => true
  | '\x5c' :: c :: _ => c == ')' || c == '|'
  | _ => false

/-- The expression of a character that stands for itself. -/
def plain (spelling : Spelling) (c : Char) : Regex :=
  if spelling.ignoresCase then .char fun x => x.toLower == c.toLower else .char (· == c)

/-- Read alternatives up to the end, or up to the end of the group they stand in. -/
def read (spelling : Spelling) :
    Nat → Bool → Groups → Reading → List Char → Except RegexFault (Regex × List Char × Groups)
  | 0, _, _, _, _ => .error .invalid
  | fuel + 1, inGroup, g, r, cs => do
    match ← symbol? spelling.extended cs with
    | none => if inGroup then .error .openGroup else return (r.whole, [], g)
    | some (symbol, rest) =>
      let push (part : Regex) (rest : List Char) := read spelling fuel inGroup g (r.push part) rest
      let itself (c : Char) := push (plain spelling c) rest
      let repeated (least : Nat) (most : Option Nat) (c : Char) (rest : List Char) :=
        match r.last with
        | some part =>
          read spelling fuel inGroup g { r with last := some (.times least most part) } rest
        | none =>
          if !spelling.extended then itself c
          else if spelling.strict then .error .nothingRepeated
          else
            let told := if c == '\x7b' then "\x7b...\x7d" else c.toString
            let g := { g with warnings := (told ++ " at start of expression") :: g.warnings }
            read spelling fuel inGroup g r rest
      match symbol with
      | .plain c => itself c
      | .any => push (.char fun c => !(spelling.linesApart && c == '\n')) rest
      | .kind f => push (.char f) rest
      | .edge .lineStart =>
        if spelling.extended || r.fresh then
          read spelling fuel inGroup g (r.pushEdge .lineStart) rest
        else itself '^'
      | .edge .lineFinish =>
        if spelling.extended || endsBranch rest then
          read spelling fuel inGroup g (r.pushEdge .lineFinish) rest
        else itself '$'
      | .edge e => read spelling fuel inGroup g (r.pushEdge e) rest
      | .bracket => do
        let (accepts, rest) ← bracketed spelling rest
        push (.char accepts) rest
      | .again n => if g.closed.contains n then push (.again n) rest else .error .reference
      | .star => repeated 0 none '*' rest
      | .plus => repeated 1 none '+' rest
      | .question => repeated 0 (some 1) '?' rest
      | .brace =>
        if r.last.isNone && spelling.strictBraces then .error .nothingRepeated
        else if r.last.isNone && !spelling.extended then itself '\x7b'
        else do
          match ← limits spelling rest with
          | some l => repeated l.least l.most '\x7b' (if r.last.isSome then l.rest else rest)
          | none => if r.last.isSome then itself '\x7b' else read spelling fuel inGroup g r rest
      | .bar => read spelling fuel inGroup g r.bar rest
      | .opening => do
        let number := g.count + 1
        let (inside, rest, g) ← read spelling fuel true { g with count := number } {} rest
        let g := { g with closed := number :: g.closed }
        read spelling fuel inGroup g (r.push (.group number inside)) rest
      | .closing =>
        if inGroup then return (r.whole, rest, g)
        else if spelling.extended && spelling.lenient then itself ')'
        else .error .closedGroup

/-- An expression that has been read. -/
structure Read where
  regex : Regex
  /-- The number of its groups. -/
  groups : Nat
  remembers : Bool
  warnings : List String

/-- Does an expression ask for what a group has matched? -/
def refers : Regex → Bool
  | .again _ => true
  | .both a b | .either a b => a.refers || b.refers
  | .times _ _ r | .group _ r => r.refers
  | _ => false

/-- Read a regular expression. -/
def ofString (spelling : Spelling) (s : String) : Except RegexFault Read := do
  let (regex, _, g) ← read spelling (2 * s.length + 2) false {} {} s.toList
  return ⟨regex, g.count, regex.refers, g.warnings.reverse⟩

end Regex

end Ensemble.Text
