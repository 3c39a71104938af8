import Ensemble.Text.Digest
import Ensemble.Utility.Input
import Ensemble.Utility.Options
import Ensemble.Utility.Quotation

/-!
# Ensemble.Utility.Summing

Utilities that tell **digests and sums** of files, and look whether files still have them: `md5sum` and
its kin, `cksum` and `sum`.
-/

namespace Ensemble.Utility

open Text (Digest.md5 Digest.sha1 Digest.sha224 Digest.sha256 Digest.sha384 Digest.sha512)

/-- A kind of digests. -/
structure DigestKind where
  /-- The name in a tag. -/
  tag : String
  /-- The number of octets. -/
  size : Nat
  digest : List Nat → List Nat

namespace DigestKind

def all : List (String × DigestKind) :=
  [("md5", ⟨"MD5", 16, Text.Digest.md5⟩), ("sha1", ⟨"SHA1", 20, Text.Digest.sha1⟩),
    ("sha224", ⟨"SHA224", 28, Text.Digest.sha224⟩), ("sha256", ⟨"SHA256", 32, Text.Digest.sha256⟩),
    ("sha384", ⟨"SHA384", 48, Text.Digest.sha384⟩), ("sha512", ⟨"SHA512", 64, Text.Digest.sha512⟩)]

/-- The digest of a text in hexadecimal digits. -/
def hexadecimal (k : DigestKind) (text : String) : String :=
  let digit (n : Nat) : List Char := Nat.toDigits 16 n
  .ofList ((k.digest (text.toList.map (·.toNat))).flatMap fun b => digit (b / 16) ++ digit (b % 16))

end DigestKind

/-- How digests are told. -/
structure DigestTelling where
  kind : DigestKind
  tagged : Bool := false
  binary : Bool := false
  ending : String := "\n"
  /-- What is not told when files are looked at: what is fine, or anything. -/
  quiet : Bool := false
  silent : Bool := false
  strict : Bool := false
  warns : Bool := false
  passesMissing : Bool := false

namespace DigestTelling

/-- A name in which line feeds and backslashes are escaped; is there any? -/
def escapedName (name : String) : Bool × String :=
  let cs := name.toList
  let isSpecial (c : Char) : Bool := c == '\n' || c == '\x5c' || c == '\r'
  if cs.any isSpecial then
    (true, .ofList (cs.flatMap fun c =>
      if c == '\n' then ['\x5c', 'n'] else if c == '\r' then ['\x5c', 'r']
      else if c == '\x5c' then ['\x5c', '\x5c'] else [c]))
  else (false, name)

/-- A name without its escapes. -/
def plainName : List Char → List Char
  | '\x5c' :: 'n' :: cs => '\n' :: plainName cs
  | '\x5c' :: 'r' :: cs => '\r' :: plainName cs
  | '\x5c' :: '\x5c' :: cs => '\x5c' :: plainName cs
  | c :: cs => c :: plainName cs
  | [] => []

/-- Tell the digest of a file. -/
def tell (t : DigestTelling) (path : String) : Tool Nat := do
  match ← contentOf path with
  | .notOpened e | .notRead e => do
    complainOf (nameOf path) e
    return 1
  | .text s => do
    let digest := t.kind.hexadecimal s
    let (isEscaped, name) := if t.ending = "\n" then escapedName path else (false, path)
    let lead := if isEscaped then "\\" else ""
    if t.tagged then say (lead ++ t.kind.tag ++ " (" ++ name ++ ") = " ++ digest ++ t.ending)
    else say (lead ++ digest ++ (if t.binary then " *" else "  ") ++ name ++ t.ending)
    return 0

/-- The name and the digest in a line. -/
def lineOf? (k : DigestKind) (line : List Char) : Option (String × String) :=
  let (isEscaped, line) := match line.dropWhile (fun c => c == ' ' || c == '\t') with
    | '\x5c' :: cs => (true, cs)
    | cs => (false, cs)
  let isDigest (cs : List Char) : Bool :=
    cs.length == 2 * k.size && cs.all fun c => Shell.Numeral.digitValue c < 16
  let named (cs : List Char) : String := .ofList (if isEscaped then plainName cs else cs)
  let tag := (k.tag ++ " (").toList
  if tag.isPrefixOf line then
    let rest := line.drop tag.length
    let digest := rest.reverse.takeWhile (· != ' ')
    let lead := ") = ".toList.reverse
    let before := rest.reverse.drop digest.length
    if isDigest digest && lead.isPrefixOf (' ' :: before.drop 1) then
      some (named (before.drop 4).reverse, .ofList digest.reverse)
    else none
  else
    let digest := line.take (2 * k.size)
    match line.drop (2 * k.size) with
    | ' ' :: c :: name =>
      if isDigest digest && (c == ' ' || c == '*') && !name.isEmpty then
        some (named name, .ofList digest)
      else none
    | _ => none

/-- What has been found. -/
structure Found where
  fine : Nat := 0
  wrong : Nat := 0
  unread : Nat := 0
  malformed : Nat := 0

/-- Look at the file that a line names. -/
def checkLine (t : DigestTelling) (path : String) (n : Nat) (f : Found) (line : List Char) : Tool Found := do
  if line.head? == some '#' || line.isEmpty then return f
  match lineOf? t.kind line with
  | none => do
    if t.warns then
      complain (nameOf path ++ ": " ++ toString n ++ ": improperly formatted " ++ t.kind.tag ++
        " checksum line")
    return { f with malformed := f.malformed + 1 }
  | some (name, digest) => do
    let (isEscaped, shown) := escapedName name
    let lead := if isEscaped then "\\" else ""
    match ← contentOf name with
    | .notOpened e | .notRead e => do
      if t.passesMissing && e == .notFound then return f
      complainOf (nameOf name) e
      if !t.silent then sayLine (lead ++ shown ++ ": FAILED open or read")
      return { f with unread := f.unread + 1 }
    | .text s =>
      if t.kind.hexadecimal s == digest.toLower then
        if !t.silent && !t.quiet then sayLine (lead ++ shown ++ ": OK")
        return { f with fine := f.fine + 1 }
      else
        if !t.silent then sayLine (lead ++ shown ++ ": FAILED")
        return { f with wrong := f.wrong + 1 }

/-- Look at all files that the lines of a file name. -/
def check (t : DigestTelling) (path : String) : Tool Nat := do
  match ← contentOf path with
  | .notOpened e | .notRead e => do
    complainOf (nameOf path) e
    return 1
  | .text s => do
    let shown := if path = "-" then "'standard input'" else nameOf path
    let mut f : Found := {}
    for (line, n) in (Text.cutAfter '\n' s.toList).zipIdx do
      f ← t.checkLine path (n + 1) f (bare '\n' line)
    if f.fine + f.wrong + f.unread = 0 && f.malformed = 0 || f.fine + f.wrong + f.unread = 0 then
      if t.passesMissing && f.malformed = 0 then
        complain (shown ++ ": no file was verified")
      else complain (shown ++ ": no properly formatted checksum lines found")
      return 1
    let many (n : Nat) (one more : String) : String := toString n ++ if n = 1 then one else more
    if !t.silent then
      if f.malformed != 0 then
        complain ("WARNING: " ++ many f.malformed " line is improperly formatted"
          " lines are improperly formatted")
      if f.unread != 0 then
        complain ("WARNING: " ++ many f.unread " listed file could not be read"
          " listed files could not be read")
      if f.wrong != 0 then
        complain ("WARNING: " ++ many f.wrong " computed checksum did NOT match"
          " computed checksums did NOT match")
      if t.passesMissing && f.fine = 0 then complain (shown ++ ": no file was verified")
    return if f.wrong + f.unread != 0 || t.strict && f.malformed != 0 ||
      t.passesMissing && f.fine = 0 then 1 else 0

end DigestTelling

def digestWords : List (String × String) :=
  [("binary", "b"), ("check", "c"), ("tag", "tag"), ("text", "t"), ("zero", "z"),
    ("ignore-missing", "missing"), ("quiet", "quiet"), ("status", "status"), ("strict", "strict"),
    ("warn", "w")]

/-- How digests are told, by the options. -/
def digestTellingOf (kind : DigestKind) (chosen : Chosen) : DigestTelling :=
  { kind, tagged := chosen.has "tag", binary := chosen.last? ["b", "t"] == some "b"
    ending := if chosen.has "z" then "\x00" else "\n", quiet := chosen.has "quiet"
    silent := chosen.has "status", strict := chosen.has "strict", warns := chosen.has "w"
    passesMissing := chosen.has "missing" }

/-- Tell or look at digests of a kind. -/
def digestFiles (kind : DigestKind) (args : List String) : Tool Nat := do
  let (chosen, operands) ← ({ letters := "bctwz", words := digestWords } : Choices).given args
  let t := digestTellingOf kind chosen
  if !chosen.has "c" then
    for (option, word) in [("missing", "ignore-missing"), ("quiet", "quiet"), ("status", "status"),
        ("strict", "strict"), ("w", "warn")] do
      if chosen.has option then
        misused ("the --" ++ word ++ " option is meaningful only when verifying checksums")
  if chosen.has "c" && chosen.has "tag" then
    misused "the --tag option is meaningless when verifying checksums"
  forFiles operands (if chosen.has "c" then t.check else t.tell)

/-- Tell the sums of files by two numbers. -/
def tellSums (operands : List String) (alone : Bool) (text : List Nat → String) : Tool Nat :=
  forFiles operands fun path => do
    match ← contentOf path with
    | .notOpened e | .notRead e => do
      complainOf (nameOf path) e
      return 1
    | .text s => do
      let isNamed := !operands.isEmpty && (!alone || path != "-")
      sayLine (text (s.toList.map (·.toNat)) ++ if isNamed then " " ++ path else "")
      return 0

/-- A number with characters before it. -/
def widened (fill : Char) (width n : Nat) : String :=
  let digits := toString n
  .ofList (List.replicate (width - digits.length) fill) ++ digits

def bsdSum (text : List Nat) : String :=
  widened '0' 5 (Text.Digest.turningSum text) ++ " " ++ widened ' ' 5 ((text.length + 1023) / 1024)

def systemSum (text : List Nat) : String :=
  toString (Text.Digest.plainSum text) ++ " " ++ toString ((text.length + 511) / 512)

def sum (args : List String) : Tool Nat := do
  let (chosen, operands) ← ({ letters := "rs", words := [("sysv", "s")] } : Choices).given args
  tellSums operands false (if chosen.last? ["r", "s"] == some "s" then systemSum else bsdSum)

def cksum (args : List String) : Tool Nat := do
  let (chosen, operands) ← ({
    letters := "a:cwz"
    words := ("algorithm:", "a") :: ("untagged", "untagged") :: digestWords } : Choices).given args
  match chosen.value? "a" with
  | none | some "crc" =>
    tellSums operands false fun text =>
      toString (Text.Digest.crc text) ++ " " ++ toString text.length
  | some "bsd" => tellSums operands false bsdSum
  | some "sysv" => tellSums operands false systemSum
  | some name =>
    match DigestKind.all.lookup name with
    | some kind => do
      let t := { digestTellingOf kind chosen with tagged := !chosen.has "untagged" }
      forFiles operands (if chosen.has "c" then t.check else t.tell)
    | none => misused ("invalid argument " ++ quoted name ++ " for '--algorithm'")

end Ensemble.Utility
