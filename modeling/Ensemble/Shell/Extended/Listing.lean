import Ensemble.Shell.Syntax

/-!
# Ensemble.Shell.Extended.Listing

**Commands as they are listed**: on one line as far as that goes, but with loops, choices and functions
spread over lines, each level of them four columns further in. Words are told as they were written.
-/

namespace Ensemble.Shell.Extended.Listing

/-- Where a command is listed: in a function, how many columns in, and how many further in the next level
is. -/
structure Place where
  inFunction : Bool := false
  indent : Nat := 0
  step : Nat := 4

namespace Place

def deeper (p : Place) : Place :=
  { p with indent := p.indent + p.step }

/-- The beginning of a line. -/
def line (p : Place) : String :=
  "\n" ++ .ofList (List.replicate p.indent ' ')

end Place

def words (ws : List Word) : String :=
  " ".intercalate (ws.map Word.source)

/-- A mark, behind the descriptor if that is not the usual one. -/
def marked (usual fd : Nat) (mark : String) : String :=
  (if fd = usual then "" else toString fd) ++ mark

/-- A redirection. -/
def redirect : Redirect → String
  | .file fd .input w => marked 0 fd "< " ++ Word.source w
  | .file fd .output w => marked 1 fd "> " ++ Word.source w
  | .file fd .overwrite w => marked 1 fd ">| " ++ Word.source w
  | .file fd .append w => marked 1 fd ">> " ++ Word.source w
  | .file fd .both w => marked 1 fd "<> " ++ Word.source w
  | .copy 0 source => "<&" ++ toString source
  | .copy fd source => toString fd ++ ">&" ++ toString source
  | .close fd => toString fd ++ ">&-"
  | .copyNamed fd w => toString fd ++ (if fd = 0 then "<&" else ">&") ++ Word.source w
  | .document fd number => marked 0 fd "<<" ++ toString number
  | .content fd w => marked 0 fd "<<< " ++ Word.source w
  | .chosen name r => "\x7b" ++ name ++ "\x7d" ++ redirect r

/-- Redirections; output and complaints that are led to one file have one mark. -/
def redirects : List Redirect → List String
  | .file 1 .output w :: .copy 2 1 :: rs => ("&> " ++ Word.source w) :: redirects rs
  | .file 1 .append w :: .copy 2 1 :: rs => ("&>> " ++ Word.source w) :: redirects rs
  | r :: rs => redirect r :: redirects rs
  | [] => []

/-- A condition. -/
def test : Test → String
  | .unary op w => op ++ " " ++ Word.source w
  | .binary op a b => Word.source a ++ " " ++ op ++ " " ++ Word.source b
  | .negated t => "! " ++ inParts t
  | .both a b => inParts a ++ " && " ++ inParts b
  | .either a b => test a ++ " || " ++ test b
where
  /-- A condition inside of one that binds closer. -/
  inParts : Test → String
    | .either a b => "( " ++ test a ++ " || " ++ test b ++ " )"
    | .unary op w => op ++ " " ++ Word.source w
    | .binary op a b => Word.source a ++ " " ++ op ++ " " ++ Word.source b
    | .negated t => "! " ++ inParts t
    | .both a b => inParts a ++ " && " ++ inParts b

/-- A command with what ends it, where another follows on a line of its own. -/
def ended (text : String) : String :=
  if text.toList.getLast? == some '&' then text else text ++ ";"

/-- How an arm ends. -/
def armEnd : ArmEnd → String
  | .leave => ";;"
  | .through => ";&"
  | .onward => ";;&"

mutual

/-- A command at a place. -/
def command (p : Place) : Command → String
  | .nothing => ""
  | .simple _ assigns ws rs =>
    " ".intercalate (assigns.map Word.source ++ ws.map Word.source ++ redirects rs)
  | .define _ name body => "function " ++ name ++ " () " ++ p.line ++ functionBody p body
  | .redirected _ body rs => " ".intercalate (command p body :: redirects rs)
  | .subshell _ body rs => " ".intercalate (("( " ++ command p body ++ " )") :: redirects rs)
  | .background _ body rs => " ".intercalate (command p body :: redirects rs) ++ " &"
  | .pipeline cs background => " | ".intercalate (commands p cs) ++ if background then " &" else ""
  | .negated c => "! " ++ command p c
  | .also a b => command p a ++ " && " ++ command p b
  | .either a b => command p a ++ " || " ++ command p b
  | .sequence a b =>
    let first := command p a
    if first.toList.getLast? == some '&' then first ++ " " ++ command p b
    else first ++ ";" ++ (if p.inFunction then p.line else " ") ++ command p b
  | .grouped c =>
    if p.inFunction then "\x7b " ++ p.deeper.line ++ command p.deeper c ++ p.line ++ "\x7d"
    else "\x7b " ++ ended (command p c) ++ " \x7d"
  | .choice test yes no =>
    "if " ++ ended (command p test) ++ " then" ++ p.deeper.line ++ ended (command p.deeper yes) ++
      (match no with
      | .nothing => ""
      | no => p.line ++ "else" ++ p.deeper.line ++ ended (command p.deeper no)) ++ p.line ++ "fi"
  | .loop untilTrue test body =>
    (if untilTrue then "until " else "while ") ++ ended (command p test) ++ " do" ++ inLoop p body
  | .each _ name ws body => "for " ++ name ++ " in " ++ words ws ++ ";" ++ p.line ++ "do" ++ inLoop p body
  | .menu _ name ws body =>
    "select " ++ name ++ " in " ++ words ws ++ ";" ++ p.line ++ "do" ++ inLoop p body
  | .counted _ start test step body =>
    "for ((" ++ Word.source start ++ ";" ++ Word.source test ++ ";" ++ Word.source step ++ "))" ++
      p.line ++ "do" ++ inLoop p body
  | .select _ subject found =>
    "case " ++ Word.source subject ++ " in " ++ arms p.deeper found ++ p.line ++ "esac"
  | .condition _ t => "[[ " ++ test t ++ " ]]"
  | .arithmetic _ w => "((" ++ Word.source w ++ "))"
  | .timed plain c => (if plain then "time -p " else "time ") ++ command p c

def commands (p : Place) : List Command → List String
  | [] => []
  | c :: cs => command p c :: commands p cs

def arms (p : Place) : List (List (List Piece) × Command × ArmEnd) → String
  | [] => ""
  | (patterns, c, e) :: rest =>
    p.line ++ " | ".intercalate (patterns.map Word.source) ++ ")" ++
      p.deeper.line ++ command p.deeper c ++ p.line ++ armEnd e ++ arms p rest

/-- The body of a loop, up to the end of the loop. -/
def inLoop (p : Place) (body : Command) : String :=
  p.deeper.line ++ ended (command p.deeper body) ++ p.line ++ "done"

/-- The body of a function, between braces. -/
def functionBody (p : Place) : Command → String
  | .grouped c => "\x7b " ++ p.deeper.line ++ command p.deeper c ++ p.line ++ "\x7d"
  | .redirected _ c rs => " ".intercalate (functionBody p c :: redirects rs)
  | c => "\x7b " ++ p.deeper.line ++ command p.deeper c ++ p.line ++ "\x7d"

end

/-- A function as other shells get to know it. -/
def exported (body : Command) : String :=
  let place : Place := { inFunction := true, indent := 1, step := 0 }
  "() \x7b  " ++ (match body with
    | .grouped c => command place c
    | c => command place c) ++ "\n\x7d"

/-- A function as it is listed. -/
def function (name : String) (body : Command) : String :=
  name ++ " () \n" ++ functionBody { inFunction := true } body ++ "\n"

end Ensemble.Shell.Extended.Listing
