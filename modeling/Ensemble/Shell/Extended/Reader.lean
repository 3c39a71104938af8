import Ensemble.Shell.Extended.Word
import Ensemble.Shell.Reader
import Ensemble.Text.Lines

/-!
# Ensemble.Shell.Extended.Reader

Reading **scripts of the extended dialect**, one complete command after the other
(`Reader.nextCommand`). A token is a word first; whether it is a keyword is asked where a command can
begin. What cannot stand where it does is told with the line that it stands in.
-/

namespace Ensemble.Shell.Extended

namespace Reader

/-! ### Tokens -/

/-- The rest of the mark of a redirection, which begins here. -/
def redirection (fd : Option Nat) : Reading Token := do
  let marks : List (String × Nat × Lead) :=
    [("<<<", 0, .content), ("<<-", 0, .document true), ("<<", 0, .document false), ("<&", 0, .duplicate),
      ("<>", 0, .file .both), ("<", 0, .file .input), (">>", 1, .file .append), (">|", 1, .file .overwrite),
      (">&", 1, .duplicate), (">", 1, .file .output)]
  let _ ← Reading.peek
  let left := (← get).left
  match marks.find? fun (mark, _) => mark.toList.isPrefixOf left with
  | some (mark, usual, lead) => do
    Reading.skip mark.length
    let isOutputs := lead == .duplicate && mark == ">&" && fd.isNone &&
      match (left.drop 2).dropWhile (fun c => c == ' ' || c == '\t') with
      | c :: _ => !(c.isDigit || c == '-' || c == '$')
      | [] => false
    return .redirect (fd.getD usual) (if isOutputs then .outputs .output else lead)
  | none => return .finish

/-- The number before the mark of a redirection. -/
def descriptor? : Reading (Option Nat) := attempt do
  let ds ← Reading.takeWhile Char.isDigit 9
  match ← Reading.peek with
  | some c =>
    if !ds.isEmpty && (c == '<' || c == '>') && (← get).left[1]? != some '(' then
      return some (Nat.ofDigitChars 10 ds 0)
    else return none
  | none => return none

/-- The mark of a redirection behind a name in braces, if that is what begins here. -/
def chosen? : Reading (Option Token) := attempt do
  Reading.skip 1
  let name ← Reading.takeWhile isNameChar 1000
  match (← get).left with
  | '\x7d' :: mark :: next :: _ =>
    if isName name && (mark == '<' || mark == '>') && next != '(' then
      Reading.skip 1
      match ← redirection none with
      | .redirect _ lead => return some (.chosen (.ofList name) lead)
      | _ => return none
    else return none
  | _ => return none

/-- The token that begins here. -/
def rawToken (readers : ScriptReaders) (assigns : Bool) : Nat → Reading Token
  | 0 => return .finish
  | fuel + 1 => do
    let mark? (marks : List (String × Token)) : Reading (Option Token) := do
      let left := (← get).left
      match marks.find? fun (mark, _) => mark.toList.isPrefixOf left with
      | some (mark, t) => do
        Reading.skip mark.length
        return some t
      | none => return none
    match ← Reading.peek with
    | none => return .finish
    | some ' ' | some '\t' => do
      Reading.skip 1
      rawToken readers assigns fuel
    | some '#' => do
      Reading.skipLine
      rawToken readers assigns fuel
    | some '\n' => do
      Reading.skip 1
      Reading.countLine
      WordReader.texts readers
      return .newline
    | some c => do
      let found ← mark?
        [("&&", .also), ("&>>", .redirect 1 (.outputs .append)), ("&>", .redirect 1 (.outputs .output)),
          ("&", .ampersand), ("||", .either), ("|&", .pipeBoth), ("|", .pipe), (";;&", .armOnward),
          (";;", .armEnd), (";&", .armThrough), (";", .semicolon), ("(", .opening), (")", .closing)]
      match found with
      | some t => return t
      | none =>
        let isChannel := (← get).left[1]? == some '('
        if (c == '<' || c == '>') && !isChannel then redirection none
        else
          match ← if c.isDigit then descriptor? else pure none with
          | some fd => redirection (some fd)
          | none =>
            match ← if c == '\x7b' then chosen? else pure none with
            | some t => return t
            | none => return .word (← WordReader.word readers assigns)

/-- The next token, or the one that was read last if it is to be read once more. -/
def token (readers : ScriptReaders) (assigns : Bool := false) : Reading Token := do
  let c ← get
  if c.pushed then
    set { c with pushed := false }
    return c.last
  else
    let t ← rawToken readers assigns Shell.Reader.tokenLimit
    modify fun c => { c with last := t }
    return t

/-- Let the token that was read last be read once more. -/
def pushBack : Reading Unit :=
  modify fun c => { c with pushed := true }

/-- The next token where an alias can stand: always, or behind another that ends with a blank. -/
def commandToken (readers : ScriptReaders) (assigns always : Bool) : Nat → Reading Token
  | 0 => return .finish
  | fuel + 1 => do
    let t ← token readers assigns
    let c ← get
    let always := always || c.aliasNext
    set { c with aliasNext := false }
    match t with
    | .word w =>
      match if always then w.plainText? else none with
      | none => return t
      | some cs =>
        match c.alias? (.ofList cs) with
        | none => return t
        | some value =>
          if value != "" then modify (·.putAlias (.ofList cs) value)
          commandToken readers assigns always fuel
    | t => return t

/-- The keyword that a token is where one can stand. -/
def keyword? : Token → Option Keyword
  | .word w => ((Word.plainText? w).map String.ofList).bind (Keyword.ofText? Keyword.all)
  | _ => none

/-- A token as it is told. -/
def tokenText : Token → String
  | .finish | .newline => "newline"
  | .semicolon => ";"
  | .ampersand => "&"
  | .also => "&&"
  | .either => "||"
  | .pipe => "|"
  | .pipeBoth => "|&"
  | .opening => "("
  | .closing => ")"
  | .armEnd => ";;"
  | .armThrough => ";&"
  | .armOnward => ";;&"
  | .redirect _ lead | .chosen _ lead =>
    match lead with
    | .file .input => "<"
    | .file .output => ">"
    | .file .overwrite => ">|"
    | .file .append => ">>"
    | .file .both => "<>"
    | .duplicate => ">&"
    | .document true => "<<-"
    | .document false => "<<"
    | .content => "<<<"
    | .outputs .append => "&>>"
    | .outputs _ => "&>"
  | .word w => w.source
  | .keyword k => k.text

/-- Complain about the token that was read last. -/
def unexpected : Reading α := do
  let c ← get
  match c.last with
  | .finish => endsEarly c.line "syntax error: unexpected end of file"
  | t =>
    let line := match t with | .newline => c.line - 1 | _ => c.line
    failAt line ("syntax error near unexpected token \x60" ++ tokenText t ++ "'") [] true

/-- Read a keyword that must stand here. -/
def expect (readers : ScriptReaders) (k : Keyword) : Reading Unit := do
  if keyword? (← token readers) != some k then unexpected

/-- Pass over line feeds. -/
def passLines (readers : ScriptReaders) : Nat → Reading Unit
  | 0 => return ()
  | fuel + 1 => do
    match ← token readers true with
    | .newline => passLines readers fuel
    | _ => pushBack

/-! ### Redirections -/

/-- The redirections of a mark that has been read. -/
def redirect (readers : ScriptReaders) (fd : Nat) (lead : Lead) : Reading (List Redirect) := do
  match ← token readers with
  | .word w =>
    match lead with
    | .file kind => return [.file fd kind w]
    | .duplicate =>
      match w.plainText? with
      | some ['-'] => return [.close fd]
      | some cs =>
        if !cs.isEmpty && cs.all Char.isDigit then return [.copy fd (Nat.ofDigitChars 10 cs 0)]
        else return [.copyNamed fd w]
      | none => return [.copyNamed fd w]
    | .document tabsOut => do
      let c ← get
      let owed : Owed := ⟨c.nextDocument, w.literalText, w.isQuoted, tabsOut⟩
      set { c with owed := c.owed ++ [owed], nextDocument := c.nextDocument + 1 }
      return [.document fd owed.number]
    | .content => return [.content fd w]
    | .outputs kind => return [.file 1 kind w, .copy 2 1]
  | _ => unexpected

/-- The redirections behind a command. -/
def redirects (readers : ScriptReaders) : Nat → Reading (List Redirect)
  | 0 => return []
  | fuel + 1 => do
    match ← token readers with
    | .redirect fd lead => do
      let rs ← redirect readers fd lead
      return rs ++ (← redirects readers fuel)
    | .chosen name lead => do
      let rs ← redirect readers 0 lead
      return rs.map (.chosen name) ++ (← redirects readers fuel)
    | _ => do
      pushBack
      return []

/-! ### Conditions -/

/-- The questions about one word. -/
def isUnary (s : String) : Bool :=
  match s.toList with
  | ['-', c] => "abcdefghknoprstuvwxzGLNORS".toList.contains c
  | _ => false

/-- The questions about two words. -/
def isBinary (s : String) : Bool :=
  ["=", "==", "!=", "=~", "-eq", "-ne", "-lt", "-le", "-gt", "-ge", "-nt", "-ot", "-ef"].contains s

/-- The expression that a text has to match: parentheses and bars are of it. -/
def expressionWord (readers : ScriptReaders) : Reading Word := do
  let before ← get
  let w ← WordReader.read readers { stops := [' ', '\t', '\n'], counted := some ('(', ')') }
  return w ++ [.written (← readSince before)]

/-- A pattern, or another word of a condition. -/
def conditionWord (readers : ScriptReaders) : Reading Token := do
  WordReader.passBlanks false Shell.WordReader.wordLimit
  match ← Reading.peek with
  | some c =>
    if c == '\n' || WordReader.isOperator c then token readers
    else
      let before ← get
      let w ← WordReader.read readers { isWord := true, groups := true }
      let t : Token := .word (w ++ [.written (← readSince before)])
      modify fun c => { c with last := t }
      return t
  | none => token readers

/-- What a condition goes wrong near: the token that was read last, and what follows it at once. -/
def nearText (t : Token) (left : List Char) : String :=
  let joints := [';', '&', '|']
  let text := tokenText t
  match left.head? with
  | some c =>
    if joints.contains c then c.toString
    else if c == ' ' || c == '\t' || c == '\n' then
      match text.toList.getLast? with
      | some d => if joints.contains d then d.toString else text
      | none => text
    else text ++ c.toString
  | none => text

/-- Complain about the token that was read last, where a condition goes wrong. -/
def wrongTest (told : Option String) : Reading α := do
  let c ← get
  match c.last with
  | .finish =>
    endsEarly c.line "unexpected token \x60EOF' in conditional command"
      ["syntax error: unexpected end of file"]
  | t =>
    let line := match t with | .newline => c.line - 1 | _ => c.line
    let near := "syntax error near \x60" ++ nearText t c.left ++ "'"
    match told with
    | some told => failAt line told [near] true
    | none => failAt line near [] true

/-- What a condition without joints reads like; `whole` reads what stands in parentheses. -/
def testPart (readers : ScriptReaders) (whole : Reading Test) : Nat → Reading Test
  | 0 => wrongTest none
  | fuel + 1 => do
    match ← token readers with
    | .newline => testPart readers whole fuel
    | .opening => do
      let t ← whole
      match ← token readers with
      | .closing => return t
      | other => wrongTest (some ("unexpected token \x60" ++ tokenText other ++ "', expected \x60)'"))
    | .word w => do
      let text := (w.plainText?.map String.ofList).getD ""
      if text == "]]" then wrongTest none
      else if text == "!" then return .negated (← testPart readers whole fuel)
      else if isUnary text then
        match ← conditionWord readers with
        | .word v =>
          if v.source == "]]" then
            wrongTest (some "unexpected argument \x60]]' to conditional unary operator")
          else return .unary text v
        | other =>
          wrongTest (some ("unexpected argument \x60" ++ tokenText other ++
            "' to conditional unary operator"))
      else
        let second (operator : String) : Reading Test := do
          let v ←
            if operator == "=~" then do
              WordReader.passBlanks false Shell.WordReader.wordLimit
              let v ← expressionWord readers
              modify fun c => { c with last := .word v }
              pure (Token.word v)
            else conditionWord readers
          match v with
          | .word v =>
            if v.source == "]]" || v.source == "" then
              wrongTest (some ("unexpected argument \x60" ++ (if v.source == "" then "newline" else "]]") ++
                "' to conditional binary operator"))
            else return .binary operator w v
          | other =>
            wrongTest (some ("unexpected argument \x60" ++ tokenText other ++
              "' to conditional binary operator"))
        match ← token readers with
        | .redirect 0 (.file .input) => second "<"
        | .redirect 1 (.file .output) => second ">"
        | .word v =>
          let operator := (v.plainText?.map String.ofList).getD ""
          if isBinary operator then second operator
          else if operator == "]]" then do
            pushBack
            return .unary "-n" w
          else wrongTest (some "conditional binary operator expected")
        | .also | .either | .closing => do
          pushBack
          return .unary "-n" w
        | other =>
          match other with
          | .newline | .finish => do
            let c ← get
            failAt (if match other with | .newline => true | _ => false then c.line - 1 else c.line)
              ("unexpected token \x60newline', conditional binary operator expected")
              ["syntax error near \x60" ++ w.source ++ "'"] true
          | _ => wrongTest (some ("unexpected token \x60" ++ tokenText other ++
              "', conditional binary operator expected"))
    | .finish => wrongTest none
    | t => wrongTest (some ("unexpected token \x60" ++ tokenText t ++ "' in conditional command"))

/-- Conditions joined by `&&`, or by `||`. -/
def testJoined (readers : ScriptReaders) (part : Reading Test) (all : Bool) : Nat → Reading Test
  | 0 => wrongTest none
  | fuel + 1 => do
    let a ← part
    passLines readers Shell.Reader.tokenLimit
    match ← token readers, all with
    | .also, true => return .both a (← testJoined readers part all fuel)
    | .either, false => return .either a (← testJoined readers part all fuel)
    | _, _ => do
      pushBack
      return a

/-- A whole condition with so many levels of parentheses. -/
def test (readers : ScriptReaders) : Nat → Reading Test
  | 0 => wrongTest none
  | n + 1 =>
    let part := testPart readers (test readers n) Shell.Reader.tokenLimit
    testJoined readers (testJoined readers part true Shell.Reader.tokenLimit) false Shell.Reader.tokenLimit

/-- How deep conditions may stand in one another. -/
def testDepth : Nat := 1000

/-! ### Commands -/

/-- The commands whose arguments can assign many values. -/
def declaringCommands : List String :=
  ["declare", "export", "local", "readonly", "typeset", "alias", "eval", "let"]

/-- The body of a function, behind its name. -/
def functionBody (g : Grammar) (name : String) : Reading Command := do
  passLines g.scripts Shell.Reader.tokenLimit
  let line := (← get).line
  match ← token g.scripts with
  | .opening => pure ()
  | .finish | .newline => unexpected
  | t =>
    match keyword? t with
    | some k =>
      if !([Keyword.group, .choice, .loopWhile, .loopUntil, .each, .select, .condition, .menu].contains k) then
        unexpected
    | none => unexpected
  pushBack
  return .define line name (← g.command)

/-- The parts of a simple command. `declares` tells that arguments can assign many values. -/
def simpleParts (g : Grammar) (line : Nat) : Nat → Bool → Bool → Shell.Reader.Simple → Reading Command
  | 0, _, _, _ => unexpected
  | fuel + 1, leading, declares, s => do
    match ← commandToken g.scripts (leading || declares) leading Shell.Reader.tokenLimit with
    | .word w =>
      let assigns :=
        leading &&
          match w with
          | .plain cs :: .place _ :: _ => isName cs
          | w => w.isAssignment || isAppending w
      if assigns then simpleParts g line fuel leading declares { s with assigns := w :: s.assigns }
      else
        let declares := if leading then declaringCommands.contains (.ofList w.literalText) else declares
        simpleParts g line fuel false declares { s with words := w :: s.words }
    | .redirect fd lead => do
      let rs ← redirect g.scripts fd lead
      simpleParts g line fuel leading declares { s with redirects := rs.reverse ++ s.redirects }
    | .chosen name lead => do
      let rs ← redirect g.scripts 0 lead
      let rs := rs.map (.chosen name)
      simpleParts g line fuel leading declares { s with redirects := rs.reverse ++ s.redirects }
    | t => do
      match t, s.words, s.assigns, s.redirects with
      | .opening, [w], [], [] =>
        match ← token g.scripts with
        | .closing => functionBody g w.source
        | _ => unexpected
      | .opening, _, _, _ => unexpected
      | _, _, _, _ => do
        pushBack
        return .simple line s.assigns.reverse s.words.reverse s.redirects.reverse
where
  /-- Does a word begin like an assignment that adds to a value? -/
  isAppending : Word → Bool
    | .plain cs :: _ =>
      let name := cs.takeWhile isNameChar
      isName name && (cs.drop name.length).take 2 == ['+', '=']
    | _ => false

/-- Expressions between double parentheses, of which the first one has been read and the second one comes
next; none if they are not closed like that. -/
def expressions? (readers : ScriptReaders) : Reading (Option Word) := do
  let c ← get
  if c.pushed || c.left.head? != some '(' then return none
  attempt do
    Reading.skip 1
    WordReader.expression? (WordReader.read readers)

/-- Cut expressions at semicolons. -/
def cutExpressions (readers : ScriptReaders) (text : String) : Reading (List Word) :=
  let (first, more) := Text.cutBetween ';' text.toList
  (first :: more).mapM fun cs => do
    let w ← WordReader.apart (WordReader.read readers {}) cs
    return w ++ [Piece.written (.ofList cs)]

/-- A list of words, up to the end of a line. -/
def wordList (readers : ScriptReaders) : Nat → Reading (List Word)
  | 0 => return []
  | fuel + 1 => do
    match ← token readers with
    | .word w => return w :: (← wordList readers fuel)
    | .newline | .semicolon => return []
    | _ => unexpected

/-- The body of a loop, between keywords or in braces. -/
def loopBody (g : Grammar) : Reading Command := do
  passLines g.scripts Shell.Reader.tokenLimit
  match keyword? (← token g.scripts) with
  | some .body => do
    let c ← g.list .inside
    expect g.scripts .bodyEnd
    return c
  | some .group => do
    let c ← g.list .inside
    expect g.scripts .groupEnd
    return c
  | _ => unexpected

/-- The words of a loop that names none. -/
def allWords : List Word :=
  [Word.allParameters ++ [.written "\"$@\""]]

/-- The words of a loop, behind the name. -/
def loopWords (g : Grammar) : Reading (List Word) := do
  let lead ← token g.scripts
  match lead with
  | .semicolon => return allWords
  | .newline => do
    passLines g.scripts Shell.Reader.tokenLimit
    match ← token g.scripts with
    | t =>
      if keyword? t == some .among then wordList g.scripts Shell.Reader.tokenLimit
      else
        pushBack
        return allWords
  | t =>
    match keyword? t with
    | some .among => wordList g.scripts Shell.Reader.tokenLimit
    | some .body | some .group => do
      pushBack
      return allWords
    | _ => unexpected

/-- A loop over words, whose keyword has been read. -/
def eachLoop (g : Grammar) (line : Nat) (menu : Bool) : Reading Command := do
  match ← token g.scripts with
  | .word w => do
    let words ← loopWords g
    let body ← loopBody g
    return if menu then .menu line w.source words body else .each line w.source words body
  | .opening =>
    if menu then unexpected
    else
      let start := (← get).line
      match ← expressions? g.scripts with
      | none => unclosed start ')'
      | some w => do
        let parts ← cutExpressions g.scripts w.source
        match parts with
        | [a, b, c] => do
          match ← token g.scripts with
          | .semicolon => pure ()
          | _ => pushBack
          return .counted line a b c (← loopBody g)
        | _ => failAt start "syntax error: arithmetic expression required" [] true
  | _ => unexpected

/-- The branches behind the test of a choice, from `then` on. -/
def branches (g : Grammar) : Nat → Reading (Command × Command)
  | 0 => unexpected
  | fuel + 1 => do
    expect g.scripts .choose
    let yes ← g.list .inside
    match keyword? (← token g.scripts) with
    | some .elseIf => do
      let test ← g.list .inside
      let (yes', no') ← branches g fuel
      return (yes, .choice test yes' no')
    | some .otherwise => do
      let no ← g.list .inside
      expect g.scripts .choiceEnd
      return (yes, no)
    | some .choiceEnd => return (yes, .nothing)
    | _ => unexpected

/-- The patterns of an arm, of which the first token has been read. -/
def patterns (g : Grammar) : Nat → Token → Reading (List Word)
  | 0, _ => unexpected
  | fuel + 1, t => do
    match t with
    | .word w =>
      match ← token g.scripts with
      | .pipe => do
        let next ← token g.scripts
        return w :: (← patterns g fuel next)
      | .closing => return [w]
      | _ => unexpected
    | _ => unexpected

/-- The arms of a selection. -/
def arms (g : Grammar) : Nat → Reading (List (List Word × Command × ArmEnd))
  | 0 => unexpected
  | fuel + 1 => do
    passLines g.scripts Shell.Reader.tokenLimit
    let t ← token g.scripts
    if keyword? t == some .selectEnd then return []
    let t ← match t with | .opening => token g.scripts | t => pure t
    let ps ← patterns g Shell.Reader.tokenLimit t
    let inside ← g.list .lenient
    let next (e : ArmEnd) : Reading (List (List Word × Command × ArmEnd)) := do
      return (ps, inside, e) :: (← arms g fuel)
    match ← token g.scripts with
    | .armEnd => next .leave
    | .armThrough => next .through
    | .armOnward => next .onward
    | t => if keyword? t == some .selectEnd then return [(ps, inside, .leave)] else unexpected

/-- A command. -/
def command (g : Grammar) : Reading Command := do
  let line := (← get).line
  let compound (read : Reading Command) : Reading Command := do
    let c ← read
    return Shell.Reader.redirected line c (← redirects g.scripts Shell.Reader.tokenLimit)
  let loop (untilTrue : Bool) : Reading Command := do
    let test ← g.list .inside
    return .loop untilTrue test (← loopBody g)
  let t ← commandToken g.scripts true true Shell.Reader.tokenLimit
  match t with
  | .opening => do
    match ← expressions? g.scripts with
    | some w => compound (return .arithmetic line w)
    | none =>
      compound do
        let inside ← g.list .inside
        match ← token g.scripts with
        | .closing => return .subshell line inside []
        | _ => unexpected
  | .redirect .. | .chosen .. => do
    pushBack
    simpleParts g line Shell.Reader.tokenLimit true false {}
  | .word _ =>
    match keyword? t with
    | some .choice =>
      compound do
        let test ← g.list .inside
        let (yes, no) ← branches g Shell.Reader.tokenLimit
        return .choice test yes no
    | some .loopWhile => compound (loop false)
    | some .loopUntil => compound (loop true)
    | some .each => compound (eachLoop g line false)
    | some .menu => compound (eachLoop g line true)
    | some .select =>
      compound do
        match ← token g.scripts with
        | .word w => do
          passLines g.scripts Shell.Reader.tokenLimit
          expect g.scripts .among
          return .select line w (← arms g Shell.Reader.tokenLimit)
        | _ => unexpected
    | some .group =>
      compound do
        let inside ← g.list .inside
        expect g.scripts .groupEnd
        return .grouped inside
    | some .condition =>
      compound do
        let t ← test g.scripts testDepth
        match keyword? (← token g.scripts) with
        | some .conditionEnd => return .condition line t
        | _ => wrongTest none
    | some .define => do
      match ← token g.scripts with
      | .word w =>
        match ← token g.scripts with
        | .opening =>
          match ← token g.scripts with
          | .closing => functionBody g w.source
          | _ => unexpected
        | _ => do
          pushBack
          functionBody g w.source
      | _ => unexpected
    | some _ => unexpected
    | none => do
      pushBack
      simpleParts g line Shell.Reader.tokenLimit true false {}
  | _ => unexpected

/-! ### Lists -/

/-- Let a command pass its complaints on, too. -/
def withComplaints : Command → Command
  | .simple line assigns words rs => .simple line assigns words (rs ++ [.copy 2 1])
  | c => .redirected 0 c [.copy 2 1]

/-- Commands joined by pipes. -/
def piped (g : Grammar) : Nat → Reading (List Command)
  | 0 => return []
  | fuel + 1 => do
    let c ← command g
    match ← token g.scripts with
    | .pipe => do
      passLines g.scripts Shell.Reader.tokenLimit
      return c :: (← piped g fuel)
    | .pipeBoth => do
      passLines g.scripts Shell.Reader.tokenLimit
      return withComplaints c :: (← piped g fuel)
    | _ => do
      pushBack
      return [c]

/-- Commands joined by pipes, behind what stands before them. -/
def pipeline (g : Grammar) : Nat → Reading Command
  | 0 => unexpected
  | fuel + 1 => do
    let t ← token g.scripts true
    let endsHere : Reading Bool := do
      let t ← token g.scripts true
      pushBack
      return match t with | .newline | .semicolon | .finish => true | _ => false
    match keyword? t with
    | some .negation => do
      if ← endsHere then return .negated .nothing
      return .negated (← pipeline g fuel)
    | some .timed => do
      let plain ←
        match ← token g.scripts true with
        | .word w =>
          if w.plainText? == some ['-', 'p'] then pure true
          else do
            pushBack
            pure false
        | _ => do
          pushBack
          pure false
      if ← endsHere then return .timed plain .nothing
      return .timed plain (← pipeline g fuel)
    | _ => do
      pushBack
      match ← piped g Shell.Reader.tokenLimit with
      | [c] => return c
      | cs => return .pipeline cs false

/-- Pipelines joined by `&&` and `||`, behind the first. -/
def joints (g : Grammar) : Nat → Command → Reading Command
  | 0, c => return c
  | fuel + 1, c => do
    let more : Reading Command := do
      passLines g.scripts Shell.Reader.tokenLimit
      pipeline g Shell.Reader.tokenLimit
    match ← token g.scripts with
    | .also => do joints g fuel (.also c (← more))
    | .either => do joints g fuel (.either c (← more))
    | _ => do
      pushBack
      return c

/-- Can no further command of a list follow here? -/
def endsList (t : Token) : Bool :=
  match t with
  | .word _ =>
    match keyword? t with
    | some k => (Token.keyword k).endsList
    | none => false
  | t => t.endsList

/-- The rest of a list, behind the commands that have been read. -/
def listFrom (g : Grammar) (place : ListPlace) : Nat → Option Command → Reading Command
  | 0, _ => unexpected
  | fuel + 1, found => do
    let outside := place == .outside
    if !outside then passLines g.scripts Shell.Reader.tokenLimit
    let t ← token g.scripts true
    let soFar := found.getD .nothing
    match t with
    | .newline => return soFar
    | .finish => do
      if outside || place == .lenient then
        pushBack
        return soFar
      unexpected
    | t => do
      pushBack
      if !outside && (found.isSome || place == .lenient) && endsList t then return soFar
      let c ← joints g Shell.Reader.tokenLimit (← pipeline g Shell.Reader.tokenLimit)
      let separator ← token g.scripts
      let c := match separator with | .ampersand => Shell.Reader.inBackground c | _ => c
      let found : Command := match found with | some before => .sequence before c | none => c
      match separator with
      | .ampersand | .semicolon => listFrom g place fuel (some found)
      | .newline =>
        if outside then
          pushBack
          return ← listFrom g place fuel (some found)
        else listFrom g place fuel (some found)
      | .finish => do
        pushBack
        return found
      | _ => do
        if outside then unexpected
        pushBack
        return found

/-- How commands are read that hold so many levels of others. -/
def grammarAt : Nat → Grammar
  | 0 =>
    let tooDeep : Reading Command := failAt 0 "syntax error"
    ⟨fun _ => tooDeep, tooDeep, ⟨tooDeep, tooDeep⟩⟩
  | n + 1 =>
    let g := grammarAt n
    let list (place : ListPlace) : Reading Command := listFrom g place Shell.Reader.tokenLimit none
    { list
      command := command g
      scripts :=
        { enclosed := do
            let c ← list .lenient
            match ← token g.scripts with
            | .closing => pure ()
            | .finish => unclosed (← get).line ')'
            | _ => unexpected
            return c
          alone := do
            let c ← list .lenient
            match ← token g.scripts with
            | .finish => pure ()
            | _ => unexpected
            return c } }

/-- The next complete command, and whether the text ends behind it; none if there is nothing more. -/
def nextCommand : Reading (Option (Command × Bool)) := do
  modify fun c => { c with pushed := false, owed := [] }
  let g := grammarAt Shell.Reader.depthLimit
  let c ← listFrom g .outside Shell.Reader.tokenLimit none
  let cursor ← get
  let atEnd := cursor.left.all fun c => c == ' ' || c == '\t' || c == '\n'
  match atEnd, c with
  | true, .nothing => return none
  | _, _ => return some (c, atEnd)

end Reader

end Ensemble.Shell.Extended
