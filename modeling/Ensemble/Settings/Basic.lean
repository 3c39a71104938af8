import Ensemble.Labeller
import Ensemble.Project
import Ensemble.Settings.Document
import Ensemble.Text.Blank

/-!
# Ensemble.Settings.Basic

The **settings** of a project: which root file, which build tool, where artifacts go, how a
component is told so, and how wide labels are. Each can be left out and has a default. A document
with anything else in it, or with a key twice, is refused.
-/

namespace Ensemble

/-- What a project can set. -/
structure Settings where
  /-- The root build file. -/
  descriptor : Path := ⟨"main.mk"⟩
  /-- The delegate build tool, as a command. -/
  tool : String := "make -s"
  /-- Where artifacts go, seen from the directory of the call. -/
  binDir : Path := ⟨".bin"⟩
  /-- The variable that tells a component its destination. -/
  destVar : String := "BIN_DEST"
  labelWidth : Nat := defaultLabelWidth
deriving DecidableEq, Repr

namespace Settings

/-- The file that settings are looked for in. -/
def defaultFile : Path := ⟨"makeup.toml"⟩

/-- The greatest number that a setting can hold. -/
def maxNumber : Nat := 18446744073709551615

/-- The settings with one more key set; none if there is no such key, or if it takes no such
value. -/
def set? (s : Settings) : String × Value → Option Settings
  | ("descriptor", .text t) => some { s with descriptor := ⟨t⟩ }
  | ("tool", .text t) => some { s with tool := t }
  | ("bin_dir", .text t) => some { s with binDir := ⟨t⟩ }
  | ("dest_var", .text t) => some { s with destVar := t }
  | ("label_width", .number (.ofNat n)) =>
    if n ≤ maxNumber then some { s with labelWidth := n } else none
  | _ => none

/-- The settings of a document's entries. -/
def ofEntries? (entries : List (String × Value)) : Option Settings :=
  if (entries.map (·.1)).Nodup then entries.foldlM set? {} else none

/-- Can the settings be used? -/
def validate (s : Settings) : Except Fault Unit :=
  if Text.isAllBlank s.tool then .error (.setting .blankTool)
  else if s.destVar = "" ∨ '=' ∈ s.destVar.toList then .error (.setting (.badDestVar s.destVar))
  else if s.labelWidth = 0 then .error (.setting .zeroLabelWidth)
  else .ok ()

/-- Read settings from the text of a document. -/
def ofText (text : String) : Except Fault Settings := do
  let s ← ((readDocument text).bind ofEntries?).elim (.error .malformedSettings) .ok
  s.validate
  return s

/-- What the phases need of the settings, for a call in the directory `cwd`. -/
def options (s : Settings) (cwd : Path) : Options where
  tool := s.tool
  binRoot := cwd.join s.binDir
  destVar := s.destVar
  labelWidth := s.labelWidth

/-- Settings can be used exactly if the tool is not blank, the variable has a name without an equals
sign and labels have a column. -/
theorem validate_eq_ok_iff {s : Settings} :
    s.validate = .ok () ↔
      Text.isAllBlank s.tool = false ∧ (s.destVar ≠ "" ∧ '=' ∉ s.destVar.toList) ∧
        1 ≤ s.labelWidth := by
  unfold validate
  by_cases ht : Text.isAllBlank s.tool = true
  · simp [ht]
  · rw [if_neg ht]
    by_cases hd : s.destVar = "" ∨ '=' ∈ s.destVar.toList
    · rw [if_pos hd]
      simp only [reduceCtorEq, false_iff]
      rintro ⟨-, ⟨h₁, h₂⟩, -⟩
      exact hd.elim h₁ h₂
    · rw [if_neg hd]
      rw [not_or] at hd
      by_cases hw : s.labelWidth = 0
      · simp [hw]
      · rw [if_neg hw]
        exact iff_of_true rfl ⟨by simpa using ht, hd, by omega⟩

end Settings

end Ensemble
