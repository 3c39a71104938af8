import Ensemble.Machine.Tree

/-!
# Ensemble.Machine.Change

What has **changed** below a directory between two file trees. A directory is listed as someone sees
who walks it: a link is seen as what it leads to, so the files of one directory can be seen in many
places, and a link that leads nowhere is seen as an empty file. A place counts as written if it is
new or holds other bytes, and as removed if nothing of its kind is there any more; a directory and
what is no directory are of different kinds.
-/

namespace Ensemble

/-- What is seen at a path: a directory, or the bytes of something else. -/
structure Seen where
  path : String
  bytes? : Option Text.Bytes
deriving DecidableEq, Repr

namespace Seen

/-- The path, with a slash behind it if it is a directory's. -/
def key (s : Seen) : String :=
  if s.bytes?.isNone then s.path ++ "/" else s.path

end Seen

namespace Tree

/-- What is seen below the path of a directory, so many directories deep. -/
def seenBelow (t : Tree) (dir : Route) : Nat → Route → String → List Seen
  | 0, _, _ => []
  | fuel + 1, place, path =>
    (t.namesIn place).flatMap fun name =>
      let path := path ++ name
      match t.find dir path with
      | .ok (place, n) =>
        if n.isDirectory then ⟨path, none⟩ :: t.seenBelow dir fuel place (path ++ "/")
        else [⟨path, some ((bytesOf n).toOption.getD [])⟩]
      | .error _ => [⟨path, some []⟩]

/-- All that is seen below a directory. -/
def seen (t : Tree) (dir : Route) : List Seen :=
  t.seenBelow dir pathLimit dir ""

/-- What is new below a directory, or holds other bytes than before. -/
def written (before after : Tree) (dir : Route) : List Seen :=
  let old := before.seen dir
  (after.seen dir).filter fun s => !old.contains s

/-- What was below a directory before and is gone, or is of another kind. -/
def removed (before after : Tree) (dir : Route) : List Seen :=
  let keys := (after.seen dir).map Seen.key
  (before.seen dir).filter fun s => !keys.contains s.key

/-- Where nothing has changed, nothing is written. -/
theorem written_self (t : Tree) (dir : Route) : t.written t dir = [] := by
  rw [written, List.filter_eq_nil_iff]
  intro s hs
  simpa using hs

/-- Where nothing has changed, nothing is removed. -/
theorem removed_self (t : Tree) (dir : Route) : t.removed t dir = [] := by
  rw [removed, List.filter_eq_nil_iff]
  intro s hs
  simpa using ⟨s, hs, rfl⟩

end Tree

end Ensemble
