import Ensemble.Shell.Extended.Start
import Ensemble.Utility.Batching
import Ensemble.Utility.Characters
import Ensemble.Utility.Comparing
import Ensemble.Utility.Compiling
import Ensemble.Utility.Concatenation
import Ensemble.Utility.Copying
import Ensemble.Utility.Creation
import Ensemble.Utility.Dating
import Ensemble.Utility.Describing
import Ensemble.Utility.Differing
import Ensemble.Utility.Dumping
import Ensemble.Utility.Editing
import Ensemble.Utility.Encoding
import Ensemble.Utility.Ends
import Ensemble.Utility.Expression
import Ensemble.Utility.Factoring
import Ensemble.Utility.Finding
import Ensemble.Utility.Folding
import Ensemble.Utility.Identity
import Ensemble.Utility.Joining
import Ensemble.Utility.Listing
import Ensemble.Utility.Making
import Ensemble.Utility.Moving
import Ensemble.Utility.Names
import Ensemble.Utility.Numbering
import Ensemble.Utility.Permission
import Ensemble.Utility.Printing
import Ensemble.Utility.Selection
import Ensemble.Utility.Sorting
import Ensemble.Utility.Starting
import Ensemble.Utility.Succession
import Ensemble.Utility.Summing
import Ensemble.Utility.Testing
import Ensemble.Utility.Transfer

/-!
# Ensemble.Utility.Table

All **programs by name**.
-/

namespace Ensemble.Utility

/-- A utility under its name, with the status that it has where it fails. -/
def entry (name : String) (failure : Nat) (act : List String → Tool Nat) : String × Program :=
  (name, toProgram { name, failure } act)

/-- Selecting lines with a kind of patterns, under a name. -/
def selectionEntry (name : String) (kind : PatternKind) : String × Program :=
  (name, toProgram { name := "grep", failure := 2, hint := selectionHint } (grepAs kind))

/-- What is told after a misuse of a utility that compares. -/
def comparingHint (name : String) : String :=
  name ++ ": Try '" ++ name ++ " --help' for more information.\n"

/-- The utilities that tell of differences and of sameness, by name. -/
def comparingUtilities : List (String × Program) :=
  [("cmp", toProgram { name := "cmp", failure := 2, hint := comparingHint } cmp),
    ("diff", toProgram { name := "diff", failure := 2, hint := comparingHint } diff),
    entry "comm" 1 comm, entry "join" 1 join, entry "paste" 1 paste, entry "tsort" 1 tsort,
    entry "uniq" 1 uniq, entry "sort" 2 sort]

/-- The utilities that tell digests and encode, by name. -/
def digestUtilities : List (String × Program) :=
  DigestKind.all.map (fun (name, kind) => entry (name ++ "sum") 1 (digestFiles kind)) ++
    [entry "cksum" 1 cksum, entry "sum" 1 sum, entry "base64" 1 (encodeFile .base64),
      entry "base32" 1 (encodeFile .base32)]

/-- The utilities that tell who and where one is, by name. -/
def identityUtilities : List (String × Program) :=
  [entry "id" 1 id, entry "whoami" 1 whoami, entry "logname" 1 logname, entry "groups" 1 groups,
    entry "tty" 2 tty, entry "uname" 1 uname, entry "arch" 1 arch, entry "hostname" 1 hostname,
    entry "nproc" 1 nproc, entry "users" 1 users, entry "which" 1 which, entry "getent" 1 getent]

/-- The utilities by name. -/
def utilities : List (String × Program) :=
  [entry "true" 1 fun _ => return 0, entry "false" 1 fun _ => return 1,
    entry "[" 2 bracketTest, entry "test" 2 test, entry "expr" 2 expr, entry "seq" 1 seq,
    entry "env" 125 env, entry "printenv" 2 printenv, entry "nohup" 125 nohup, entry "nice" 125 nice,
    entry "sleep" 1 sleep, entry "timeout" 125 timeout, entry "basename" 1 basename,
    entry "cat" 1 cat, entry "chmod" 1 chmod, entry "cp" 1 cp, entry "cut" 1 cut, entry "date" 1 date,
    entry "dd" 1 dd, entry "dirname" 1 dirname, entry "echo" 1 echo, entry "expand" 1 expand,
    entry "factor" 1 factor, entry "find" 1 find, entry "fold" 1 fold, entry "head" 1 head,
    entry "install" 1 install, entry "link" 1 link, entry "ln" 1 ln, entry "ls" 2 ls,
    entry "make" 2 make, entry "mkdir" 1 mkdir, entry "mkfifo" 1 mkfifo, entry "mktemp" 1 mktemp,
    entry "mv" 1 mv, entry "nl" 1 nl, entry "od" 1 od, entry "printf" 1 printf, entry "pwd" 1 pwd,
    entry "readlink" 1 readlink, entry "realpath" 1 realpath, entry "rev" 1 rev, entry "rm" 1 rm,
    entry "rmdir" 1 rmdir, entry "stat" 1 stat, entry "sync" 1 fun _ => return 0, entry "tac" 1 tac,
    entry "tail" 1 tail, entry "tee" 1 tee, entry "touch" 1 touch, entry "tr" 1 tr,
    entry "truncate" 1 truncate, entry "unexpand" 1 unexpand, entry "unlink" 1 unlink,
    entry "wc" 1 wc, entry "xargs" 1 xargs, entry "yes" 1 yes,
    selectionEntry "grep" .basic, selectionEntry "egrep" .extended, selectionEntry "fgrep" .fixed,
    ("sed", toProgram { name := "sed", hint := Editing.usage } sed),
    entry "cc" 1 cc, entry "gcc" 1 cc, entry "c99" 1 cc] ++
    comparingUtilities ++ digestUtilities ++ identityUtilities

/-- The programs of a machine, by name. -/
def programs : List (String × Program) :=
  [("sh", Shell.program), ("dash", Shell.program), ("bash", Shell.Extended.program)] ++ utilities

def programNames : List String :=
  programs.map (·.1)

def program? (name : String) : Option Program :=
  programs.lookup name

end Ensemble.Utility
