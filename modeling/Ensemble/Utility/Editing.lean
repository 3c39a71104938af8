import Ensemble.Utility.Editing.Run
import Ensemble.Utility.Options

/-!
# Ensemble.Utility.Editing

**Editing lines** by a script: `sed`. The pieces of the script are read as they are given; files that it
writes to are opened then, whether or not more of it can be read.
-/

namespace Ensemble.Utility

namespace Editing

/-- Where more is told about something. -/
def more (page : String) : String :=
  "<https" ++ "://www.gnu.org/" ++ page ++ ">"

/-- How it is used. -/
def usage (name : String) : String :=
  "Usage: " ++ name ++ " [OPTION]... \x7bscript-only-if-no-other-script\x7d [input-file]...\n\n" ++
  "  -n, --quiet, --silent\n" ++
  "                 suppress automatic printing of pattern space\n" ++
  "      --debug\n" ++
  "                 annotate program execution\n" ++
  "  -e script, --expression=script\n" ++
  "                 add the script to the commands to be executed\n" ++
  "  -f script-file, --file=script-file\n" ++
  "                 add the contents of script-file to the commands to be executed\n" ++
  "  --follow-symlinks\n" ++
  "                 follow symlinks when processing in place\n" ++
  "  -i[SUFFIX], --in-place[=SUFFIX]\n" ++
  "                 edit files in place (makes backup if SUFFIX supplied)\n" ++
  "  -l N, --line-length=N\n" ++
  "                 specify the desired line-wrap length for the `l' command\n" ++
  "  --posix\n" ++
  "                 disable all GNU extensions.\n" ++
  "  -E, -r, --regexp-extended\n" ++
  "                 use extended regular expressions in the script\n" ++
  "                 (for portability use POSIX -E).\n" ++
  "  -s, --separate\n" ++
  "                 consider files as separate rather than as a single,\n" ++
  "                 continuous long stream.\n" ++
  "      --sandbox\n" ++
  "                 operate in sandbox mode (disable e/r/w commands).\n" ++
  "  -u, --unbuffered\n" ++
  "                 load minimal amounts of data from the input files and flush\n" ++
  "                 the output buffers more often\n" ++
  "  -z, --null-data\n" ++
  "                 separate lines by NUL characters\n" ++
  "      --help     display this help and exit\n" ++
  "      --version  output version information and exit\n\n" ++
  "If no -e, --expression, -f, or --file option is given, then the first\n" ++
  "non-option argument is taken as the sed script to interpret.  All\n" ++
  "remaining arguments are names of input files; if no input files are\n" ++
  "specified, then the standard input is read.\n\n" ++
  "GNU sed home page: " ++ more "software/sed/" ++ ".\n" ++
  "General help using GNU software: " ++ more "gethelp/" ++ ".\n"

/-- What the options have come to. -/
structure Setting where
  reading : Reading := {}
  /-- The number of pieces that were given as arguments, and whether there are pieces at all. -/
  expressions : Nat := 0
  given : Bool := false
  targets : List (String × Nat) := []
  manner : Manner := {}

/-- Open the files that are written to. -/
def openTargets (opened : List (String × Nat)) (names : List String) : Tool (List (String × Nat)) := do
  let mut targets := opened
  for name in names do
    if (targets.lookup name).isNone then
      match ← ask (.openFile name { writes := true, create := true, truncate := true }) with
      | .ok fd => targets := (name, fd) :: targets
      | .error e => tellAndQuit 4 ("couldn't open file " ++ name ++ ": " ++ e.message)
  return targets

/-- Read a piece of the script. -/
def withPiece (s : Setting) (source : Source) (piece : String) : Tool Setting := do
  let start := { s.reading with extended := s.reading.extended }
  let (result, reading) := (Reader.piece source piece).run.run start
  let targets ← openTargets s.targets reading.targets.reverse
  match result with
  | .ok _ => return { s with reading, targets, given := true }
  | .error (.regex .bareClass) => tellAndQuit 4 Text.RegexFault.bareClass.message
  | .error f => tellAndQuit 1 (reading.place.told ++ f.message)

/-- Read a piece that is given as an argument. -/
def withExpression (s : Setting) (piece : String) : Tool Setting := do
  let n := s.expressions + 1
  withPiece { s with expressions := n } (.expression n) piece

/-- Take an option into account. -/
def withOption (s : Setting) (name : String) (value : Option String) : Tool Setting := do
  let v := value.getD ""
  let m := s.manner
  match name with
  | "n" => return { s with manner := { m with silent := true } }
  | "e" => withExpression s v
  | "f" =>
    match ← contentOf (if v = "/dev/stdin" then "-" else v) with
    | .text text => withPiece s (.file v) text
    | .notRead _ => withPiece s (.file v) ""
    | .notOpened e => tellAndQuit 4 ("couldn't open file " ++ v ++ ": " ++ e.message)
  | "i" => return { s with manner := { m with inPlace := true, separate := true, backup := value } }
  | "s" => return { s with manner := { m with separate := true } }
  | "E" => return { s with reading := { s.reading with extended := true } }
  | "z" => return { s with manner := { m with stop := '\x00' } }
  | "l" =>
    let width := Nat.ofDigitChars 10 (v.toList.takeWhile Char.isDigit) 0
    return { s with manner := { m with width } }
  | "u" => return { s with manner := { m with unbuffered := true } }
  | "follow-symlinks" => return { s with manner := { m with followsLinks := true } }
  | "sandbox" => return { s with reading := { s.reading with guarded := true } }
  | "help" => do
    say (usage (← get).name ++ "E-mail bug reports to: <bug-sed@gnu.org>.\n")
    quit 0
  | "version" => do
    sayLine "sed (GNU sed) 4.9"
    quit 0
  | _ => return s

/-- The options. -/
def choices : Choices :=
  { letters := "bsnrzuEe:f:l:i::"
    words := [("binary", "b"), ("regexp-extended", "E"), ("debug", "debug"), ("in-place::", "i"),
      ("expression:", "e"), ("file:", "f"), ("line-length:", "l"), ("null-data", "z"),
      ("zero-terminated", "z"), ("quiet", "n"), ("posix", "p"), ("silent", "n"),
      ("sandbox", "sandbox"), ("separate", "s"), ("unbuffered", "u"), ("version", "version"),
      ("help", "help"), ("follow-symlinks", "follow-symlinks")] }

end Editing

open Editing in
def sed (args : List String) : Tool Nat := do
  let (s, operands) ← choices.fold args ({} : Setting) fun s name value =>
    withOption s (if name = "r" then "E" else name) value
  let (s, files) ←
    if s.given then pure (s, operands)
    else
      match operands with
      | [] => misuse
      | piece :: files => do pure (← withExpression s piece, files)
  match s.reading.close with
  | .error (f, p) => tellAndQuit 1 (p.told ++ f.message)
  | .ok (_, some label) => tellAndQuit 4 ("can't find label for jump to `" ++ label ++ "'")
  | .ok (script, none) => do
    if s.manner.inPlace && files.isEmpty then tellAndQuit 4 "no input files"
    let mut sources : List (String × Feed) := []
    for name in s.reading.sources do
      match ← openInput (if name = "/dev/stdin" then "-" else name) with
      | .ok fd => sources := (name, { fd }) :: sources
      | .error _ => pure ()
    let work : Work := {
      script, targets := s.targets, sources, files := if files.isEmpty then ["-"] else files
      manner := { s.manner with silent := s.manner.silent || s.reading.silent } }
    return (← run.run work).1

end Ensemble.Utility
