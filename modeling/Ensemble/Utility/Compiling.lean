import Ensemble.Utility.Input
import Ensemble.Utility.Names

/-!
# Ensemble.Utility.Compiling

A **compiler** on a machine without sources: `cc` looks for what it is to compile and to link, and tells
what is missing. A source that is there becomes an empty object.
-/

namespace Ensemble.Utility

namespace Compiling

/-- What the compiler is asked for. -/
structure Wanted where
  files : List String := []
  target : Option String := none
  /-- Are objects made, and nothing linked? -/
  onlyObjects : Bool := false

/-- Take arguments; the answer says if the last one lacks its value. -/
def taken (w : Wanted) : List String → Wanted × Bool
  | [] => (w, false)
  | "-o" :: [] => (w, true)
  | "-o" :: target :: args => taken { w with target := some target } args
  | a :: args =>
    match a.toList with
    | '-' :: 'o' :: target => taken { w with target := some (.ofList target) } args
    | '-' :: 'l' :: _ => taken { w with files := w.files ++ [a] } args
    | ['-', 'c'] | ['-', 'S'] | ['-', 'E'] => taken { w with onlyObjects := true } args
    | '-' :: _ :: _ => taken w args
    | _ => taken { w with files := w.files ++ [a] } args

/-- What is behind the last point of a name. -/
def suffixOf (path : String) : String :=
  let name := (baseName path).toList.reverse
  let suffix := name.takeWhile (· != '.')
  if suffix.length = name.length then "" else .ofList suffix.reverse

/-- The part of the compiler that reads a kind of source. -/
def readerOf? (path : String) : Option String :=
  match suffixOf path with
  | "c" | "i" | "S" => some "cc1"
  | "cc" | "cpp" | "cxx" | "C" => some "cc1plus"
  | _ => none

/-- Is there something at a path? -/
def isThere (path : String) : Tool Bool := do
  return (← ask (.status path true)).toOption.isSome

def stopped : String := "compilation terminated.\n"

/-- Compile what is a source; is everything there? -/
def compile (w : Wanted) : Tool Bool := do
  let mut fine := true
  for path in w.files do
    match readerOf? path with
    | none => pure ()
    | some reader =>
      if !(← isThere path) then
        sayError (reader ++ ": fatal error: " ++ path ++ ": No such file or directory\n" ++ stopped)
        fine := false
      else if w.onlyObjects then
        let bare := withoutEnd (baseName path) ("." ++ suffixOf path)
        match ← ask (.openFile (w.target.getD (bare ++ ".o")) { writes := true, create := true, truncate := true }) with
        | .ok fd =>
          let _ ← ask (.close fd)
        | .error _ => fine := false
  return fine

/-- Link objects; some start of a program is always missing. -/
def linkObjects (w : Wanted) : Tool Unit := do
  let mut missing : List String := []
  for path in w.files do
    if (readerOf? path).isNone && !(← isThere path) then missing := missing ++ [path]
  let told :=
    if missing.isEmpty then
      "/usr/bin/ld: /usr/lib/x86_64-linux-gnu/Scrt1.o: in function \x60_start':\n" ++
        "(.text+0x1b): undefined reference to \x60main'\n"
    else
      String.join (missing.map fun path =>
        "/usr/bin/ld: cannot find " ++ path ++ ": No such file or directory\n")
  sayError (told ++ "collect2: error: ld returned 1 exit status\n")

end Compiling

open Compiling in
def cc (args : List String) : Tool Nat := do
  let name := baseName (← get).name
  let (w, lacks) := taken {} args
  if lacks then sayError (name ++ ": error: missing filename after '-o'\n")
  if w.files.isEmpty then
    sayError (name ++ ": fatal error: no input files\n" ++ stopped)
    return 1
  if w.onlyObjects then
    let mut fine := true
    for path in w.files do
      if (readerOf? path).isNone then
        sayError (name ++ ": warning: " ++ path ++
          ": linker input file unused because linking not done\n")
        if !(← isThere path) then
          sayError (name ++ ": error: " ++ path ++
            ": linker input file not found: No such file or directory\n")
          fine := false
    return if (← compile w) && fine then 0 else 1
  if ← compile w then linkObjects w
  return 1

end Ensemble.Utility
