/-!
# Ensemble.Text.Lines

**Physical lines.** A sequence is cut *after* each separator, so that the pieces, put back
together, are the sequence (`flatten_cutAfter`) and only the last piece may lack a terminator. A
line's terminator is a line feed, or a carriage return and a line feed; a carriage return that no
line feed follows belongs to the line.
-/

namespace Ensemble.Text

/-- Cut a sequence after each separator. There is no empty piece. -/
def cutAfter [DecidableEq α] (sep : α) : List α → List (List α)
  | [] => []
  | x :: xs =>
    if x = sep then
      [x] :: cutAfter sep xs
    else
      match cutAfter sep xs with
      | [] => [[x]]
      | piece :: pieces => (x :: piece) :: pieces

/-- Cutting loses nothing. -/
theorem flatten_cutAfter [DecidableEq α] (sep : α) (xs : List α) :
    (cutAfter sep xs).flatten = xs := by
  induction xs with
  | nil => rfl
  | cons x xs ih =>
      rw [cutAfter]
      split
      · simp [ih]
      · split <;> rename_i h <;> rw [h] at ih
        · simp_all
        · simpa using ih

/-- What holds no separator belongs to the first piece of what comes behind it. -/
theorem cutAfter_append_of_not_mem [DecidableEq α] {sep : α} {xs : List α} (h : sep ∉ xs)
    (hne : xs ≠ []) (ys : List α) :
    cutAfter sep (xs ++ ys) =
      match cutAfter sep ys with
      | [] => [xs]
      | piece :: pieces => (xs ++ piece) :: pieces := by
  induction xs with
  | nil => exact absurd rfl hne
  | cons x xs ih =>
      have hx : x ≠ sep := fun he => h (by simp [he])
      rw [List.cons_append, cutAfter, if_neg hx]
      by_cases hxs : xs = []
      · subst hxs
        cases hys : cutAfter sep ys <;> simp [hys]
      · rw [ih (fun hm => h (List.mem_cons_of_mem _ hm)) hxs]
        cases cutAfter sep ys <;> rfl

/-- What holds no separator is one piece, unless it is empty. -/
theorem cutAfter_of_not_mem [DecidableEq α] {sep : α} {xs : List α} (h : sep ∉ xs) :
    cutAfter sep xs = if xs = [] then [] else [xs] := by
  split
  · rename_i hxs
    rw [hxs, cutAfter]
  · rename_i hxs
    have hcut := cutAfter_append_of_not_mem h hxs []
    rwa [List.append_nil] at hcut

/-- The first piece ends with the first separator. -/
theorem cutAfter_append_cons [DecidableEq α] {sep : α} {xs : List α} (h : sep ∉ xs)
    (ys : List α) : cutAfter sep (xs ++ sep :: ys) = (xs ++ [sep]) :: cutAfter sep ys := by
  by_cases hne : xs = []
  · simp [hne, cutAfter]
  · rw [cutAfter_append_of_not_mem h hne, cutAfter, if_pos rfl]

/-- Lines that are ended are pieces, whatever comes behind them. -/
theorem cutAfter_lines [DecidableEq α] {sep : α} {lines : List (List α)}
    (h : ∀ line ∈ lines, sep ∉ line) (ys : List α) :
    cutAfter sep (lines.flatMap (· ++ [sep]) ++ ys) =
      lines.map (· ++ [sep]) ++ cutAfter sep ys := by
  induction lines with
  | nil => rfl
  | cons line lines ih =>
      obtain ⟨hline, hlines⟩ := List.forall_mem_cons.mp h
      have hcut := cutAfter_append_cons hline (lines.flatMap (· ++ [sep]) ++ ys)
      rw [ih hlines] at hcut
      simpa using hcut

/-- A cut can be made before or after each element is replaced by a sequence, if only that of the
separator holds a separator. -/
theorem cutAfter_flatMap [DecidableEq α] [DecidableEq β] {sep : α} {sep' : β} {f : α → List β}
    (hsep : f sep = [sep']) (hother : ∀ x, x ≠ sep → f x ≠ [] ∧ sep' ∉ f x) (xs : List α) :
    cutAfter sep' (xs.flatMap f) = (cutAfter sep xs).map (·.flatMap f) := by
  induction xs with
  | nil => rfl
  | cons x xs ih =>
      rw [List.flatMap_cons, cutAfter]
      split
      · rename_i h
        rw [h, hsep, List.singleton_append, cutAfter, if_pos rfl, ih]
        simp [hsep]
      · rename_i h
        obtain ⟨hne, hmem⟩ := hother x h
        rw [cutAfter_append_of_not_mem hmem hne, ih]
        cases cutAfter sep xs <;> simp

/-- A line without its terminator. -/
def withoutTerminator (line : List Char) : List Char :=
  match line.reverse with
  | '\n' :: '\r' :: body => body.reverse
  | '\n' :: body => body.reverse
  | _ => line

/-- The lines of a text, without their terminators. -/
def lines (s : String) : List String :=
  (cutAfter '\n' s.toList).map fun line => .ofList (withoutTerminator line)

/-- The pieces between the separators: the first, and those that follow a separator each. -/
def cutBetween [DecidableEq α] (sep : α) : List α → List α × List (List α)
  | [] => ([], [])
  | x :: xs =>
    let (piece, pieces) := cutBetween sep xs
    if x = sep then ([], piece :: pieces) else (x :: piece, pieces)

/-- Pieces put back together, with a separator before each but the first. -/
def joinBetween (sep : α) (pieces : List α × List (List α)) : List α :=
  pieces.1 ++ pieces.2.flatMap (sep :: ·)

/-- Cutting between separators loses nothing. -/
theorem joinBetween_cutBetween [DecidableEq α] (sep : α) (xs : List α) :
    joinBetween sep (cutBetween sep xs) = xs := by
  induction xs with
  | nil => rfl
  | cons x xs ih =>
      simp only [cutBetween]
      split
      · rename_i h
        simpa [joinBetween, h] using ih
      · simpa [joinBetween] using ih

/-- No piece holds a separator. -/
theorem not_mem_of_mem_cutBetween [DecidableEq α] {sep : α} {xs piece : List α}
    (h : piece = (cutBetween sep xs).1 ∨ piece ∈ (cutBetween sep xs).2) : sep ∉ piece := by
  induction xs generalizing piece with
  | nil => simp_all [cutBetween]
  | cons x xs ih =>
      simp only [cutBetween] at h
      split at h
      · rcases h with rfl | h
        · simp
        · exact ih (List.mem_cons.mp h)
      · rename_i hx
        rcases h with rfl | h
        · simpa [Ne.symm hx] using ih (Or.inl rfl)
        · exact ih (Or.inr h)

/-- The two sides of the first separator, which belongs to neither. -/
def splitFirst [DecidableEq α] (sep : α) : List α → Option (List α × List α)
  | [] => none
  | x :: xs =>
    if x = sep then some ([], xs)
    else (splitFirst sep xs).map fun (before, after) => (x :: before, after)

/-- A split names the first separator: what stands before it holds none. -/
theorem splitFirst_eq_some_iff [DecidableEq α] {sep : α} {xs before after : List α} :
    splitFirst sep xs = some (before, after) ↔ xs = before ++ sep :: after ∧ sep ∉ before := by
  induction xs generalizing before with
  | nil => simp [splitFirst]
  | cons x xs ih =>
      by_cases h : x = sep
      · subst h
        cases before with
        | nil => simp [splitFirst, eq_comm]
        | cons b bs => simp [splitFirst]; rintro rfl; simp
      · cases before with
        | nil => simp [splitFirst, h]
        | cons b bs =>
            have : splitFirst sep (x :: xs) = some (b :: bs, after) ↔
                x = b ∧ splitFirst sep xs = some (bs, after) := by
              simp only [splitFirst, h, if_false, Option.map_eq_some_iff, Prod.exists, Prod.mk.injEq,
                List.cons.injEq]
              constructor
              · rintro ⟨p, q, hp, ⟨rfl, rfl⟩, rfl⟩
                exact ⟨rfl, hp⟩
              · rintro ⟨rfl, hp⟩
                exact ⟨bs, after, hp, ⟨rfl, rfl⟩, rfl⟩
            rw [this, ih]
            simp only [List.cons_append, List.cons.injEq, List.mem_cons, not_or]
            constructor
            · rintro ⟨rfl, rfl, hn⟩
              exact ⟨⟨rfl, rfl⟩, Ne.symm h, hn⟩
            · rintro ⟨⟨rfl, rfl⟩, -, hn⟩
              exact ⟨rfl, rfl, hn⟩

/-- Two sequences that agree up to a separator, before which neither holds one. -/
theorem append_cons_inj_of_not_mem [DecidableEq α] {sep : α} {xs xs' ys ys' : List α}
    (h : xs ++ sep :: ys = xs' ++ sep :: ys') (hxs : sep ∉ xs) (hxs' : sep ∉ xs') :
    xs = xs' ∧ ys = ys' := by
  have hsplit : splitFirst sep (xs ++ sep :: ys) = some (xs, ys) :=
    splitFirst_eq_some_iff.mpr ⟨rfl, hxs⟩
  rw [splitFirst_eq_some_iff.mpr ⟨h, hxs'⟩] at hsplit
  obtain ⟨rfl, rfl⟩ : xs' = xs ∧ ys' = ys := by simpa using hsplit
  exact ⟨rfl, rfl⟩

/-- No separator, no split. -/
theorem splitFirst_eq_none_iff [DecidableEq α] {sep : α} {xs : List α} :
    splitFirst sep xs = none ↔ sep ∉ xs := by
  induction xs with
  | nil => simp [splitFirst]
  | cons x xs ih =>
      by_cases h : x = sep
      · simp [splitFirst, h]
      · simp [splitFirst, h, ih, Ne.symm h]

/-- The rest of a text after a given beginning. -/
def afterLead? (lead : String) (s : String) : Option String :=
  if lead.toList.isPrefixOf s.toList then some (.ofList (s.toList.drop lead.toList.length))
  else none

/-- A text has the rest `r` after `lead` exactly when it is `lead` followed by `r`. -/
theorem afterLead?_eq_some_iff {lead s r : String} : afterLead? lead s = some r ↔ s = lead ++ r := by
  unfold afterLead?
  constructor
  · intro h
    split at h
    · rename_i hp
      obtain ⟨t, ht⟩ := List.isPrefixOf_iff_prefix.mp hp
      rw [← ht, List.drop_left, Option.some.injEq] at h
      subst h
      apply String.toList_injective
      simp [ht]
    · cases h
  · rintro rfl
    simp

end Ensemble.Text
