/-!
# Ensemble.Text.Search

Looking for one text inside another. The empty text is found everywhere.
-/

namespace Ensemble.Text

/-- Does `needle` occur in the sequence as one piece? -/
def occursIn [DecidableEq α] (needle : List α) : List α → Bool
  | [] => needle.isEmpty
  | x :: xs => needle.isPrefixOf (x :: xs) || occursIn needle xs

/-- An occurrence cuts the sequence into what stands before it, itself and what stands after. -/
theorem occursIn_iff [DecidableEq α] {needle xs : List α} :
    occursIn needle xs = true ↔ ∃ before after, xs = before ++ needle ++ after := by
  induction xs with
  | nil =>
      simp only [occursIn, List.isEmpty_iff, List.append_assoc, List.nil_eq, List.append_eq_nil_iff]
      exact ⟨fun h => ⟨[], [], rfl, h, rfl⟩, fun ⟨_, _, _, h, _⟩ => h⟩
  | cons x xs ih =>
      rw [occursIn, Bool.or_eq_true, ih, List.isPrefixOf_iff_prefix]
      constructor
      · rintro (⟨after, h⟩ | ⟨before, after, rfl⟩)
        · exact ⟨[], after, by simpa using h.symm⟩
        · exact ⟨x :: before, after, by simp⟩
      · rintro ⟨before, after, h⟩
        cases before with
        | nil => exact .inl ⟨after, by simpa using h.symm⟩
        | cons b before =>
            simp only [List.cons_append, List.cons.injEq] at h
            exact .inr ⟨before, after, h.2⟩

/-- Does a text contain another? -/
def contains (s needle : String) : Bool :=
  occursIn needle.toList s.toList

end Ensemble.Text
