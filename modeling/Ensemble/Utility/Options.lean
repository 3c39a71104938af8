import Ensemble.Utility.Basic

/-!
# Ensemble.Utility.Options

**Options**: single letters behind one dash, and words behind two, of which a beginning is enough that
fits no other. Operands may stand between options, unless a utility takes none behind the first
operand; `--` ends the options.
-/

namespace Ensemble.Utility

/-- Does an option take a value? -/
inductive Taking
  | nothing
  | value
  /-- Only one that is joined to the option. -/
  | joined
deriving DecidableEq, Repr

/-- The options of a utility. -/
structure Choices where
  /-- The letters. Behind one that takes a value stands a colon, or two if the value must be joined. -/
  letters : String := ""
  /-- The words, with colons in the same way, and the options they stand for. -/
  words : List (String × String) := []
  /-- Are there no options behind the first operand? -/
  leading : Bool := false

/-- An option with its value, or what is wrong with one. -/
inductive Given
  | option (name : String) (value : Option String)
  | wrong (told : String)
deriving Repr

namespace Choices

/-- Whether a letter of a list of letters takes a value; none if it is not there. -/
def takingOf (letter : Char) : List Char → Option Taking
  | [] => none
  | c :: cs =>
    if c == letter && c != ':' then
      match cs with
      | ':' :: ':' :: _ => some .joined
      | ':' :: _ => some .value
      | _ => some .nothing
    else takingOf letter cs

/-- A word without its colons, and whether it takes a value. -/
def wordTaking (word : String) : String × Taking :=
  match word.toList.reverse with
  | ':' :: ':' :: cs => (.ofList cs.reverse, .joined)
  | ':' :: cs => (.ofList cs.reverse, .value)
  | _ => (word, .nothing)

/-- The options of letters behind one dash. -/
def ofLetters (c : Choices) : List Char → List String → List Given × List String
  | [], args => ([], args)
  | letter :: more, args =>
    match takingOf letter c.letters.toList with
    | none => ([.wrong ("invalid option -- '" ++ letter.toString ++ "'")], args)
    | some .nothing =>
      let (others, args) := ofLetters c more args
      (.option letter.toString none :: others, args)
    | some .joined =>
      ([.option letter.toString (if more.isEmpty then none else some (.ofList more))], args)
    | some .value =>
      match more, args with
      | [], [] => ([.wrong ("option requires an argument -- '" ++ letter.toString ++ "'")], [])
      | [], a :: args => ([.option letter.toString (some a)], args)
      | more, args => ([.option letter.toString (some (.ofList more))], args)

/-- The option of a word behind two dashes. -/
def ofWord (c : Choices) (given : String) (args : List String) : Given × List String :=
  let (name, value) :=
    match Text.splitFirst '=' given.toList with
    | some (name, value) => (String.ofList name, some (String.ofList value))
    | none => (given, none)
  let words := c.words.map fun (word, stands) => (wordTaking word, stands)
  let exact := words.filter fun ((w, _), _) => w == name
  let fitting := words.filter fun ((w, _), _) => name.toList.isPrefixOf w.toList
  let candidates := if exact.isEmpty then fitting else exact.take 1
  match candidates with
  | [] => (.wrong ("unrecognized option '--" ++ given ++ "'"), args)
  | ((word, taking), stands) :: others =>
    if others.any fun ((_, t), s) => t != taking || s != stands then
      (.wrong ("option '--" ++ given ++ "' is ambiguous; possibilities:" ++
        String.join (candidates.map fun ((w, _), _) => " '--" ++ w ++ "'")), args)
    else
      match taking, value, args with
      | .nothing, some _, args =>
        (.wrong ("option '--" ++ word ++ "' doesn't allow an argument"), args)
      | .value, none, [] => (.wrong ("option '--" ++ word ++ "' requires an argument"), args)
      | .value, none, a :: args => (.option stands (some a), args)
      | _, value, args => (.option stands value, args)

/-- The options among arguments, and the operands. -/
def parse (c : Choices) : Nat → List String → List Given × List String
  | 0, args => ([], args)
  | _, [] => ([], [])
  | fuel + 1, a :: args =>
    match a.toList with
    | ['-', '-'] => ([], args)
    | '-' :: '-' :: word =>
      let (g, args) := c.ofWord (.ofList word) args
      let (given, operands) := c.parse fuel args
      (g :: given, operands)
    | '-' :: letter :: more =>
      let (some', args) := c.ofLetters (letter :: more) args
      let (given, operands) := c.parse fuel args
      (some' ++ given, operands)
    | _ =>
      if c.leading then ([], a :: args)
      else
        let (given, operands) := c.parse fuel args
        (given, a :: operands)

/-- Take the options off arguments one by one; the first that is wrong ends the utility. -/
def fold (c : Choices) (args : List String) (start : σ)
    (take : σ → String → Option String → Tool σ) : Tool (σ × List String) := do
  let (given, operands) := c.parse (args.length + 1) args
  let mut s := start
  for g in given do
    match g with
    | .option name value => s ← take s name value
    | .wrong told => misused told
  return (s, operands)

end Choices

/-- Options that have been given, the last first. -/
abbrev Chosen := List (String × String)

namespace Chosen

def has (c : Chosen) (name : String) : Bool :=
  c.any (·.1 == name)

/-- The value that was given last. -/
def value? (c : Chosen) (name : String) : Option String :=
  c.lookup name

/-- Of these options the one that was given last. -/
def last? (c : Chosen) (names : List String) : Option String :=
  (c.find? fun (name, _) => names.contains name).map (·.1)

end Chosen

/-- The options and operands among arguments. -/
def Choices.given (c : Choices) (args : List String) : Tool (Chosen × List String) :=
  c.fold args ([] : Chosen) fun chosen name value => return (name, value.getD "") :: chosen

end Ensemble.Utility
