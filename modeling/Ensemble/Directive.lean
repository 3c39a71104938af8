import Ensemble.Fault
import Ensemble.Path
import Ensemble.Text.Blank
import Ensemble.Text.Utf8

/-!
# Ensemble.Directive

**Directives**: what the root build file declares besides being a build file. An include names a
component, a check names a command to try beforehand, and an override says that a target of a
component is supplied by the root file itself. Their texts are kept character for character.

**Reading** leaves the root file an ordinary build file: every line that opens no directive is
ignored, and so is a blank line wherever it stands. A check, an external label and an override take
the next line that is not blank as their second line; if it does not fit, or there is none, the file
is refused.

The source is bytes. It is cut into physical lines first (`sourceLines`), and a line that is not
UTF-8 counts only when the reading reaches it: a fault further up comes first.
-/

namespace Ensemble

/-- A command to try beforehand, and the text its output must contain. -/
structure Check where
  command : String
  equals : String
deriving DecidableEq, Repr

/-- A component's build file, and where the component comes from if it is not the project's own. -/
structure Include where
  path : Path
  label : Option String := none
deriving DecidableEq, Repr

namespace Include

/-- The name of the component: its file name without extension, or nothing if the path ends in no
name. -/
def componentName (i : Include) : String :=
  i.path.fileStem.getD ""

/-- The component's file, seen from the directory of the root file. -/
def resolve (i : Include) (base : Path) : Path :=
  base.join i.path

end Include

/-- The root file supplies `target` of `component`, as `component/target`. -/
structure Override where
  component : String
  target : String
deriving DecidableEq, Repr

/-- One declaration of the root file. -/
inductive Directive
  | component (i : Include)
  | check (c : Check)
  | override (o : Override)
deriving DecidableEq, Repr

namespace Directive

def include? : Directive → Option Include
  | .component i => some i
  | _ => none

def check? : Directive → Option Check
  | .check c => some c
  | _ => none

def override? : Directive → Option Override
  | .override o => some o
  | _ => none

end Directive

/-! ### Source lines -/

/-- A physical line that is not blank. -/
inductive SourceLine
  | text (number : Nat) (content : String)
  /-- The line is not UTF-8. -/
  | garbled
deriving DecidableEq, Repr

/-- What a physical line holds: nothing if it is blank. -/
def SourceLine.ofBytes? (number : Nat) (bytes : Text.Bytes) : Option SourceLine :=
  match Text.Utf8.decode? bytes with
  | none => some .garbled
  | some s =>
    let content := String.ofList (Text.withoutTerminator s.toList)
    if Text.isAllBlank content then none else some (.text number content)

/-- The lines that are not blank, numbered from `number` on by their place among all lines. -/
def numberLines (number : Nat) : List Text.Bytes → List SourceLine
  | [] => []
  | bytes :: rest =>
    (SourceLine.ofBytes? number bytes).toList ++ numberLines (number + 1) rest

/-- The lines of a source that are not blank. -/
def sourceLines (source : Text.Bytes) : List SourceLine :=
  numberLines 1 (Text.cutAfter Text.lineFeed source)

/-! ### Keywords -/

/-- The keywords a line can begin with. -/
inductive Keyword
  | component
  | check
  | equal
  | external
  | override
deriving DecidableEq, Repr

/-- The beginning of a line that is a keyword; no keyword's is the beginning of another's. -/
def Keyword.lead : Keyword → String
  | .component => "include "
  | .check => "# check "
  | .equal => "# equal "
  | .external => "# extern "
  | .override => "# override"

/-- All keywords. -/
def Keyword.all : List Keyword :=
  [.component, .check, .equal, .external, .override]

/-- The keyword a line begins with, and the rest of the line. -/
def Keyword.classify (line : String) : Option (Keyword × String) :=
  Keyword.all.findSome? fun k => (Text.afterLead? k.lead line).map (k, ·)

/-- The text of a line that begins with the keyword `k`. -/
def Keyword.strip (k : Keyword) (line : String) : Option String :=
  Text.afterLead? k.lead line

/-! ### Second lines -/

/-- Read `component/target:`. What stands before the first colon holds one slash, with something on
both sides. -/
def Override.ofLine? (line : String) : Option Override := do
  let (head, _) ← Text.splitFirst ':' line.toList
  let (component, target) ← Text.splitFirst '/' head
  if component = [] ∨ target = [] ∨ '/' ∈ target then none
  else some ⟨.ofList component, .ofList target⟩

/-- The directive of an opener, the rest of its line and its second line, if that one fits. -/
def Opener.complete? (opener : Opener) (rest second : String) : Option Directive :=
  match opener with
  | .check => (Keyword.equal.strip second).map fun equals => .check ⟨rest, equals⟩
  | .external => (Keyword.component.strip second).map fun path => .component ⟨⟨path⟩, some rest⟩
  | .override => (Override.ofLine? second).map .override

/-! ### Reading -/

/-- What a line says by itself. -/
inductive Sentence
  /-- Nothing: the line is no directive. -/
  | aside
  /-- A directive of one line. -/
  | whole (d : Directive)
  /-- The first line of a directive of two. -/
  | opens (opener : Opener) (rest : String)
deriving DecidableEq, Repr

/-- What a line says. An expected text that follows no check says nothing. -/
def Sentence.ofLine (line : String) : Sentence :=
  match Keyword.classify line with
  | some (.component, path) => .whole (.component ⟨⟨path⟩, none⟩)
  | some (.check, command) => .opens .check command
  | some (.external, label) => .opens .external label
  | some (.override, _) => .opens .override ""
  | some (.equal, _) | none => .aside

/-- The directives of source lines, or the first fault met on the way down. -/
def readLines : List SourceLine → Except Fault (List Directive)
  | [] => .ok []
  | .garbled :: _ => .error (.io .notUtf8)
  | .text number line :: rest =>
    match Sentence.ofLine line with
    | .aside => readLines rest
    | .whole d => (d :: ·) <$> readLines rest
    | .opens opener opened =>
      match rest with
      | [] => .error (.parse number (.cutOff opener))
      | .garbled :: _ => .error (.io .notUtf8)
      | .text second got :: rest =>
        match opener.complete? opened got with
        | some d => (d :: ·) <$> readLines rest
        | none => .error (.parse second (.wrongSecond opener got))

/-- The directives of a root file, in order. -/
def readDirectives (source : Text.Bytes) : Except Fault (List Directive) :=
  readLines (sourceLines source)

end Ensemble
