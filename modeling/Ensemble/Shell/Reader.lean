import Ensemble.Shell.WordReader

/-!
# Ensemble.Shell.Reader

Reading **scripts**, one complete command after the other (`Reader.nextCommand`). What a word is
depends on where it stands, so every token is asked for with what it may be there (`Wanted`): whether
line feeds are passed over, and whether a word can be a keyword or an alias.

Commands hold lists of commands. `Grammar` is a way to read what is inside, and `Reader.grammarAt` ties
the knot, so many levels deep.
-/

namespace Ensemble.Shell

/-- What the next token may be. -/
structure Wanted where
  /-- Are line feeds passed over? -/
  pastLines : Bool := false
  keywords : Bool := false
  aliases : Bool := false
  /-- Is it the delimiter of a text? -/
  verbatim : Bool := false

/-- Where commands are looked for in a list. -/
inductive ListPlace
  /-- At the outside: a list is one line. -/
  | outside
  /-- Inside of another command: there is at least one command. -/
  | inside
  /-- Inside, where there need not be a command. -/
  | lenient
deriving DecidableEq, Repr

/-- How the commands inside of a command are read. -/
structure Grammar where
  list : ListPlace → Reading Command
  command : Reading Command
  scripts : ScriptReaders

namespace Reader

/-! ### Tokens -/

/-- The place of a command. -/
def commandPlace : Wanted :=
  { keywords := true, aliases := true }

/-- The place of a command, with line feeds before it. -/
def commandPlaceBelow : Wanted :=
  { pastLines := true, keywords := true, aliases := true }

/-- The number that a single digit before a redirection names. -/
def redirectedDescriptor? (w : Word) (quoted : Bool) : Option (Option Nat) :=
  if quoted then none
  else
    match w with
    | [] => some none
    | [.plain [c]] => if c.isDigit then some (some (c.toNat - '0'.toNat)) else none
    | _ => none

/-- The rest of the mark of a redirection, which `c` begins. -/
def redirection (fd : Option Nat) (c : Char) : Reading Token := do
  Reading.skip 1
  let second ← Reading.peek
  let take (t : Token) : Reading Token := do
    Reading.skip 1
    return t
  if c == '>' then
    let fd := fd.getD 1
    match second with
    | some '>' => take (.redirect fd (.file .append))
    | some '|' => take (.redirect fd (.file .overwrite))
    | some '&' => take (.redirect fd .duplicate)
    | _ => return .redirect fd (.file .output)
  else
    let fd := fd.getD 0
    match second with
    | some '<' =>
      Reading.skip 1
      if (← Reading.peek) == some '-' then take (.redirect fd (.document true))
      else return .redirect fd (.document false)
    | some '&' => take (.redirect fd .duplicate)
    | some '>' => take (.redirect fd (.file .both))
    | _ => return .redirect fd (.file .input)

/-- A word, or the mark of a redirection. -/
def wordToken (readers : ScriptReaders) (verbatim : Bool) : Reading (Token × Bool) := do
  let (w, quoted) ← WordReader.word readers verbatim
  match ← Reading.peek with
  | some c =>
    if c == '<' || c == '>' then
      match redirectedDescriptor? w quoted with
      | some fd => return (← redirection fd c, false)
      | none => pure ()
  | none => pure ()
  modify fun c => { c with lastWord := w }
  return (.word w, quoted)

/-- The token that begins here, and whether any of it is quoted. -/
def rawToken (readers : ScriptReaders) (verbatim : Bool) : Nat → Reading (Token × Bool)
  | 0 => return (.finish, false)
  | fuel + 1 => do
    let twice (c : Char) (one two : Token) : Reading (Token × Bool) := do
      Reading.skip 1
      if (← Reading.peek) == some c then
        Reading.skip 1
        return (two, false)
      else return (one, false)
    match ← Reading.peek with
    | none => return (.finish, false)
    | some ' ' | some '\t' =>
      Reading.skip 1
      rawToken readers verbatim fuel
    | some '#' =>
      Reading.skipLine
      rawToken readers verbatim fuel
    | some '\n' =>
      Reading.skip 1
      Reading.countLine
      return (.newline, false)
    | some '&' => twice '&' .ampersand .also
    | some '|' => twice '|' .pipe .either
    | some ';' => twice ';' .semicolon .armEnd
    | some '(' =>
      Reading.skip 1
      return (.opening, false)
    | some ')' =>
      Reading.skip 1
      return (.closing, false)
    | some _ => wordToken readers verbatim

/-- Tokens without end are not asked for. -/
def tokenLimit : Nat := 10000000

/-- The token that was read last, if it is to be read once more, or else the next one. -/
def repeatedToken (readers : ScriptReaders) (verbatim : Bool) : Reading (Token × Bool) := do
  let c ← get
  if c.pushed then
    set { c with pushed := false }
    return (c.last, match c.last with | .word w => w.isQuoted | _ => false)
  else
    let (t, quoted) ← rawToken readers verbatim tokenLimit
    modify fun c => { c with last := t }
    return (t, quoted)

/-- The next token behind line feeds; the texts that are owed are read where their lines begin. -/
def pastLineFeeds (readers : ScriptReaders) : Nat → Token × Bool → Reading (Token × Bool)
  | 0, t => return t
  | fuel + 1, t => do
    match t with
    | (.newline, _) =>
      WordReader.texts readers
      pastLineFeeds readers fuel (← repeatedToken readers false)
    | t => return t

/-- The next token, as it is wanted. -/
def wantedToken (readers : ScriptReaders) (want : Wanted) : Nat → Bool → Reading Token
  | 0, _ => return .finish
  | fuel + 1, aliasesToo => do
    let first ← repeatedToken readers want.verbatim
    let (t, quoted) ← if want.pastLines then pastLineFeeds readers tokenLimit first else pure first
    let aliasesToo := aliasesToo || (← get).aliasNext
    modify fun c => { c with aliasNext := false }
    match t with
    | .word w =>
      match if quoted then none else w.plainText? with
      | none => return t
      | some cs =>
        let s := String.ofList cs
        match if want.keywords then Keyword.ofText? Keyword.common s else none with
        | some k =>
          modify fun c => { c with last := .keyword k }
          return .keyword k
        | none =>
          let cursor ← get
          match if aliasesToo then cursor.alias? s else none with
          | some value =>
            if value != "" then modify (·.putAlias s value)
            wantedToken readers want fuel aliasesToo
          | none => return t
    | t => return t

/-- The next token. -/
def token (readers : ScriptReaders) (want : Wanted) : Reading Token :=
  wantedToken readers want tokenLimit want.aliases

/-- Let the token that was read last be read once more. -/
def pushBack : Reading Unit :=
  modify fun c => { c with pushed := true }

/-- Complain about the token that was read last. -/
def unexpected (expected : Option Token) : Reading α := do
  let told := (← get).last.name ++ " unexpected"
  match expected with
  | some t => Reading.fail (told ++ " (expecting " ++ t.name ++ ")")
  | none => Reading.fail told

def isKeyword (t : Token) (k : Keyword) : Bool :=
  match t with
  | .keyword l => l == k
  | _ => false

/-- Read a keyword that must stand here. -/
def expectKeyword (readers : ScriptReaders) (want : Wanted) (k : Keyword) : Reading Unit := do
  if !isKeyword (← token readers want) k then unexpected (some (.keyword k))

/-! ### Redirections -/

/-- The redirection to a word, as it is written. -/
def duplication (fd : Nat) (w : Word) : Redirect :=
  match w with
  | [.plain ['-']] => .close fd
  | [.plain [c]] => if c.isDigit then .copy fd (c.toNat - '0'.toNat) else .copyNamed fd w
  | _ => .copyNamed fd w

/-- The redirection whose mark has been read. -/
def redirect (readers : ScriptReaders) (fd : Nat) (lead : Lead) : Reading Redirect := do
  let verbatim := match lead with | .document _ => true | _ => false
  match ← token readers { verbatim } with
  | .word w =>
    match lead with
    | .file kind => return .file fd kind w
    | .duplicate => return duplication fd w
    | .document tabsOut =>
      let c ← get
      let owed : Owed := ⟨c.nextDocument, w.literalText, w.isQuoted, tabsOut⟩
      set { c with owed := c.owed ++ [owed], nextDocument := c.nextDocument + 1 }
      return .document fd owed.number
    | .content => return .content fd w
    | .outputs kind => return .file fd kind w
  | _ => unexpected none

/-- The redirections behind a command. -/
def redirects (readers : ScriptReaders) : Nat → Wanted → Reading (List Redirect)
  | 0, _ => return []
  | fuel + 1, want => do
    match ← token readers want with
    | .redirect fd lead => do
      let r ← redirect readers fd lead
      return r :: (← redirects readers fuel {})
    | _ => do
      pushBack
      return []

/-! ### Commands -/

/-- What has been read of a simple command. -/
structure Simple where
  assigns : List Word := []
  words : List Word := []
  redirects : List Redirect := []

/-- A function, whose name has been read. -/
def definition (g : Grammar) (w : Word) : Reading Command := do
  match ← token g.scripts {} with
  | .closing => pure ()
  | _ => unexpected (some .closing)
  let name := (w.plainText?).getD []
  if !isName name || specialCommands.contains (.ofList name) then
    Reading.fail "Bad function name"
  let line := (← get).line
  return .define line (.ofList name) (← commandBelow)
where
  /-- The body stands below line feeds. -/
  commandBelow : Reading Command := do
    let _ ← token g.scripts commandPlaceBelow
    pushBack
    g.command

/-- The assignments, words and redirections of a simple command. -/
def simpleParts (g : Grammar) (line : Nat) : Nat → Bool → Simple → Reading Command
  | 0, _, _ => unexpected none
  | fuel + 1, leading, s => do
    let finish : Reading Command := do
      pushBack
      return .simple line s.assigns.reverse s.words.reverse s.redirects.reverse
    match ← token g.scripts { aliases := leading } with
    | .word w =>
      if leading && w.isAssignment then
        simpleParts g line fuel leading { s with assigns := w :: s.assigns }
      else simpleParts g line fuel false { s with words := w :: s.words }
    | .redirect fd lead =>
      let r ← redirect g.scripts fd lead
      simpleParts g line fuel leading { s with redirects := r :: s.redirects }
    | .opening =>
      match s.words, s.assigns, s.redirects with
      | [w], [], [] => definition g w
      | _, _, _ => finish
    | _ => finish

/-- Words up to what is no word. -/
def wordsHere (readers : ScriptReaders) : Nat → Reading (List Word)
  | 0 => return []
  | fuel + 1 => do
    match ← token readers {} with
    | .word w => return w :: (← wordsHere readers fuel)
    | _ => return []

/-- The branches behind the test of a choice, from `then` on. -/
def branches (g : Grammar) : Nat → Reading (Command × Command)
  | 0 => unexpected none
  | fuel + 1 => do
    expectKeyword g.scripts {} .choose
    let yes ← g.list .inside
    match ← token g.scripts {} with
    | .keyword .elseIf =>
      let test ← g.list .inside
      let (yes', no') ← branches g fuel
      return (yes, .choice test yes' no')
    | .keyword .otherwise => return (yes, ← g.list .inside)
    | _ =>
      pushBack
      return (yes, .nothing)

/-- The body of a loop. -/
def body (g : Grammar) (want : Wanted) : Reading Command := do
  expectKeyword g.scripts want .body
  g.list .inside

/-- A loop over words, whose keyword has been read. -/
def eachLoop (g : Grammar) (line : Nat) : Reading Command := do
  let name ←
    match ← token g.scripts {} with
    | .word w => pure ((w.plainText?).getD [])
    | _ => pure []
  if !isName name then Reading.fail "Bad for loop variable"
  let words ←
    match ← token g.scripts commandPlaceBelow with
    | .keyword .among =>
      let words ← wordsHere g.scripts tokenLimit
      match (← get).last with
      | .newline | .semicolon => pure words
      | _ => unexpected none
    | .semicolon => pure [Word.allParameters]
    | _ =>
      pushBack
      pure [Word.allParameters]
  return .each line (.ofList name) words (← body g commandPlaceBelow)

/-- The patterns of an arm, of which the first has been read. -/
def patterns (g : Grammar) : Nat → Reading (List Word)
  | 0 => unexpected none
  | fuel + 1 => do
    let w := (← get).lastWord
    match ← token g.scripts {} with
    | .pipe =>
      let _ ← token g.scripts {}
      return w :: (← patterns g fuel)
    | .closing => return [w]
    | _ => unexpected (some .closing)

/-- The arms of a selection. -/
def arms (g : Grammar) : Nat → Reading (List (List Word × Command × ArmEnd))
  | 0 => unexpected none
  | fuel + 1 => do
    let want : Wanted := { pastLines := true, keywords := true }
    match ← token g.scripts want with
    | .keyword .selectEnd => return []
    | t =>
      match t with
      | .opening =>
        let _ ← token g.scripts {}
      | _ => pure ()
      let ps ← patterns g tokenLimit
      let inside ← g.list .lenient
      match ← token g.scripts want with
      | .keyword .selectEnd => return [(ps, inside, .leave)]
      | .armEnd => return (ps, inside, .leave) :: (← arms g fuel)
      | _ => unexpected (some .armEnd)

/-- A selection, whose keyword has been read. -/
def selection (g : Grammar) (line : Nat) : Reading Command := do
  match ← token g.scripts {} with
  | .word w =>
    expectKeyword g.scripts commandPlaceBelow .among
    return .select line w (← arms g tokenLimit)
  | _ => unexpected (some (.word []))

/-- Redirections around a command. -/
def redirected (line : Nat) (c : Command) : List Redirect → Command
  | [] => c
  | rs =>
    match c with
    | .subshell line body _ => .subshell line body rs
    | c => .redirected line c rs

/-- A command. -/
def command (g : Grammar) : Reading Command := do
  let line := (← get).line
  let expect (k : Keyword) : Reading Unit := expectKeyword g.scripts {} k
  let compound (read : Reading Command) : Reading Command := do
    let c ← read
    return redirected line c (← redirects g.scripts tokenLimit commandPlace)
  match ← token g.scripts {} with
  | .keyword .choice =>
    compound do
      let test ← g.list .inside
      let (yes, no) ← branches g tokenLimit
      expect .choiceEnd
      return .choice test yes no
  | .keyword .loopWhile =>
    compound do
      let test ← g.list .inside
      let inside ← body g {}
      expect .bodyEnd
      return .loop false test inside
  | .keyword .loopUntil =>
    compound do
      let test ← g.list .inside
      let inside ← body g {}
      expect .bodyEnd
      return .loop true test inside
  | .keyword .each =>
    compound do
      let c ← eachLoop g line
      expect .bodyEnd
      return c
  | .keyword .select => compound (selection g line)
  | .opening =>
    compound do
      let inside ← g.list .inside
      match ← token g.scripts {} with
      | .closing => return .subshell line inside []
      | _ => unexpected (some .closing)
  | .keyword .group =>
    compound do
      let inside ← g.list .inside
      expect .groupEnd
      return inside
  | .word _ | .redirect .. =>
    pushBack
    simpleParts g (← get).line tokenLimit true {}
  | _ => unexpected none

/-! ### Lists -/

/-- Commands joined by `|`, behind the first. -/
def pipeRest (g : Grammar) : Nat → Reading (List Command)
  | 0 => return []
  | fuel + 1 => do
    match ← token g.scripts {} with
    | .pipe =>
      let _ ← token g.scripts commandPlaceBelow
      pushBack
      let c ← command g
      return c :: (← pipeRest g fuel)
    | _ =>
      pushBack
      return []

/-- Commands joined by `|`, whose first token has been read as one of a command. -/
def pipeline (g : Grammar) : Reading Command := do
  let negated ←
    match ← token g.scripts {} with
    | .keyword .negation =>
      let _ ← token g.scripts commandPlace
      pushBack
      pure true
    | _ =>
      pushBack
      pure false
  let first ← command g
  let rest ← pipeRest g tokenLimit
  let c : Command := if rest.isEmpty then first else .pipeline (first :: rest) false
  return if negated then .negated c else c

/-- Pipelines joined by `&&` and `||`, behind the first. -/
def joints (g : Grammar) : Nat → Command → Reading Command
  | 0, c => return c
  | fuel + 1, c => do
    let more : Reading Command := do
      let _ ← token g.scripts commandPlaceBelow
      pushBack
      pipeline g
    match ← token g.scripts {} with
    | .also => joints g fuel (.also c (← more))
    | .either => joints g fuel (.either c (← more))
    | _ =>
      pushBack
      return c

/-- Let a command run in the background. -/
def inBackground : Command → Command
  | .pipeline commands _ => .pipeline commands true
  | .redirected line body rs => .background line body rs
  | c => .background 0 c []

/-- The rest of a list, behind the commands that have been read. -/
def listFrom (g : Grammar) (place : ListPlace) : Nat → Option Command → Reading Command
  | 0, _ => unexpected none
  | fuel + 1, found => do
    let outside := place == .outside
    let t ← token g.scripts { commandPlaceBelow with pastLines := !outside }
    let soFar := found.getD .nothing
    match t with
    | .newline =>
      WordReader.texts g.scripts
      return soFar
    | .finish =>
      pushBack
      return soFar
    | _ =>
      pushBack
      if !outside && (found.isSome || place == .lenient) && t.endsList then return soFar
      let c ← joints g tokenLimit (← pipeline g)
      let t ← token g.scripts {}
      let c := match t with | .ampersand => inBackground c | _ => c
      let found : Command := match found with | some before => .sequence before c | none => c
      match t with
      | .finish =>
        pushBack
        return found
      | .newline =>
        pushBack
        listFrom g place fuel (some found)
      | .ampersand | .semicolon => listFrom g place fuel (some found)
      | _ =>
        if outside then unexpected none
        pushBack
        return found

/-- How commands are read that hold so many levels of others. -/
def grammarAt : Nat → Grammar
  | 0 =>
    let tooDeep : Reading Command := Reading.fail "Maximum function recursion depth reached"
    ⟨fun _ => tooDeep, tooDeep, ⟨tooDeep, tooDeep⟩⟩
  | n + 1 =>
    let g := grammarAt n
    let list (place : ListPlace) : Reading Command := listFrom g place tokenLimit none
    { list
      command := command g
      scripts :=
        { enclosed := do
            let c ← list .lenient
            match ← token g.scripts {} with
            | .closing => pure ()
            | _ => unexpected (some .closing)
            modify fun cursor =>
              { cursor with
                documents := cursor.documents ++ cursor.owed.map fun o => (o.number, []), owed := [] }
            return c
          alone := do
            let c ← list .lenient
            WordReader.texts g.scripts
            return c } }

/-- How deep commands may stand in one another. -/
def depthLimit : Nat := 10000

/-- The next complete command, and whether the text ends behind it; none if there is nothing more. -/
def nextCommand : Reading (Option (Command × Bool)) := do
  modify fun c => { c with pushed := false, owed := [] }
  let c ← listFrom (grammarAt depthLimit) .outside tokenLimit none
  let cursor ← get
  let atEnd := cursor.pushed && (match cursor.last with | .finish => true | _ => false)
  match atEnd, c with
  | true, .nothing => return none
  | _, _ => return some (c, atEnd)

end Reader

end Ensemble.Shell
