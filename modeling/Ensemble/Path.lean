import Ensemble.Text.Lines

/-!
# Ensemble.Path

**Paths**: texts that name a place in a tree, with `/` between the names. A path is kept as it was
written; what it means is its list of `Segment`s. Repeated slashes, a slash at the end and `.`
segments (but for a leading `.` of a relative path) mean nothing and yield no segment.

The cuts `parent`, `fileName` and `fileStem` look at the last segment only, and `parent` keeps the
writing of what stays.

The **lexical normal form** of a path is absolute or not, and a list of names (`NormalPath`). `.`
says nothing and `..` takes back the name before it, if there is one; at the root, or with no name
left, it says nothing either. No file system is read, so a `..` behind a link is taken back all the
same.
-/

namespace Ensemble

/-- A path, as written. -/
structure Path where
  text : String
deriving DecidableEq, Repr, Inhabited

/-- A part of a path that means something. -/
inductive Segment
  /-- The leading slash of an absolute path. -/
  | root
  /-- The leading `.` of a relative path. -/
  | here
  /-- A `..`. -/
  | up
  | name (s : String)
deriving DecidableEq, Repr

namespace Path

/-! ### Pieces and segments -/

/-- What stands between the slashes, the first piece apart. -/
def pieces (p : Path) : List Char × List (List Char) :=
  Text.cutBetween '/' p.text.toList

/-- A piece that means nothing where it follows a slash. -/
def isIdle (piece : List Char) : Bool :=
  piece == [] || piece == ['.']

/-- The segment of a piece that is not empty. -/
def pieceSegment (piece : List Char) : Segment :=
  if piece = ['.'] then .here
  else if piece = ['.', '.'] then .up
  else .name (.ofList piece)

/-- A path that starts at the root. -/
def isAbsolute (p : Path) : Bool :=
  p.text.toList.head? == some '/'

/-- The segments of a path, in order. -/
def segments (p : Path) : List Segment :=
  let (head, tail) := p.pieces
  let lead :=
    if p.isAbsolute then [.root]
    else if head = [] then []
    else [pieceSegment head]
  lead ++ (tail.filter (!isIdle ·)).map pieceSegment

/-! ### Parents and names -/

/-- Without the idle pieces at the end. -/
def dropIdle (tail : List (List Char)) : List (List Char) :=
  (tail.reverse.dropWhile isIdle).reverse

/-- The path of pieces, where an empty first piece stands for the root. -/
def ofPieces (head : List Char) (tail : List (List Char)) : Path :=
  if head = [] ∧ tail = [] then ⟨"/"⟩
  else ⟨.ofList (Text.joinBetween '/' (head, tail))⟩

/-- The path without its last segment: none of the root and of the empty path, the empty path of a
single relative segment. What stays is written as before, up to idle pieces at its end. -/
def parent (p : Path) : Option Path :=
  let (head, tail) := p.pieces
  match dropIdle tail with
  | [] => if head = [] then none else some ⟨""⟩
  | piece :: pieces => some (ofPieces head (dropIdle (piece :: pieces).dropLast))

/-- The last segment, if it is a name. -/
def fileName (p : Path) : Option String :=
  match p.segments.getLast? with
  | some (.name s) => some s
  | _ => none

/-- A file name up to its last dot; all of it if no dot follows its first character. -/
def stemOf (name : String) : String :=
  match name.toList.reverse.dropWhile (· != '.') with
  | [] => name
  | [_] => name
  | _ :: stem => .ofList stem.reverse

/-- The file name without its extension. -/
def fileStem (p : Path) : Option String :=
  p.fileName.map stemOf

/-! ### Joining -/

/-- `p` seen from `base`: an absolute `p` stands for itself, and a relative one is written behind
`base`, with a slash between unless `base` is empty or ends in one. -/
def join (base p : Path) : Path :=
  if p.isAbsolute then p
  else if base.text = "" ∨ base.text.toList.getLast? = some '/' then ⟨base.text ++ p.text⟩
  else ⟨base.text ++ "/" ++ p.text⟩

/-- The directory a file lies in: its parent, or the current directory `.` if it has none. -/
def directory (p : Path) : Path :=
  match p.parent with
  | some ⟨""⟩ => ⟨"."⟩
  | some dir => dir
  | none => ⟨"."⟩

/-- Joining an absolute path replaces the base. -/
theorem join_of_isAbsolute {base p : Path} (h : p.isAbsolute = true) : base.join p = p := by
  simp [join, h]

/-- The directory of a path is never the empty path. -/
theorem directory_ne_empty (p : Path) : p.directory ≠ ⟨""⟩ := by
  unfold directory
  split
  · simp
  · rename_i h _
    intro he
    exact h (he ▸ rfl)
  · simp

end Path

/-! ### Normal forms -/

/-- A path without `.` and `..`, told apart from its spelling. -/
structure NormalPath where
  absolute : Bool
  names : List String
deriving DecidableEq, Repr, Inhabited

namespace NormalPath

/-- The nameless relative path. -/
def empty : NormalPath := ⟨false, []⟩

/-- Go on by one segment. -/
def push (n : NormalPath) : Segment → NormalPath
  | .root => ⟨true, []⟩
  | .here => n
  | .up => { n with names := n.names.dropLast }
  | .name s => { n with names := n.names ++ [s] }

/-- The one spelling of a normal path: no repeated slash, and none at the end but for the root. -/
def toPath (n : NormalPath) : Path :=
  ⟨(if n.absolute then "/" else "") ++ "/".intercalate n.names⟩

/-- The directories that lead to `n`, the nearest first: every shorter list of its names, but for
the relative path without names, which names no directory. -/
def ancestors (n : NormalPath) : List NormalPath :=
  let above := (List.range n.names.length).reverse.map fun k => { n with names := n.names.take k }
  above.filter (· ≠ empty)

end NormalPath

namespace Path

/-- The lexical normal form. -/
def normal (p : Path) : NormalPath :=
  p.segments.foldl .push .empty

/-- The path respelled in its normal form. -/
def normalize (p : Path) : Path :=
  p.normal.toPath

end Path

end Ensemble
