import Ensemble.Proofs.Validation
import Ensemble.Proofs.Words

/-!
# Ensemble.Proofs.Commands

**What a component's commands call its tool with.** A command is one text: the tool, `-f`, a file
and a target, with spaces between. The shell splits the text at its spaces again, so a name in it
comes through just as far as it is a word (`Text.words_toolCall`). The call is the one that was
meant, with one file and one target (`Invocation.Delegates`), exactly if the file and the target are
words (`delegates_iff`).

All commands of a project have that shape. What stands for the file is the component's file, or the
path of the root file where that one supplies the environment; the target is a fixed word, behind
the component's name there. Nothing in a name is quoted and no name is refused, so a space in one is
a break.
-/

namespace Ensemble

/-! ### The words of a call -/

namespace Text

/-- **The words of a tool's call**: those of the tool, the option, and those of what stands behind
it. -/
theorem words_toolCall (tool file target : String) :
    words (tool ++ " -f " ++ file ++ " " ++ target) =
      words tool ++ "-f" :: (words file ++ words target) := by
  have htext : tool ++ " -f " ++ file ++ " " ++ target =
      tool ++ " " ++ ("-f" ++ " " ++ (file ++ " " ++ target)) := by
    rw [show " -f " = " " ++ ("-f" ++ " ") by decide]
    simp only [String.append_assoc]
  have hoption : words "-f" = ["-f"] := by decide
  rw [htext, words_space, words_space, words_space, hoption]
  rfl

end Text

namespace Invocation

/-- The command calls the tool with one file and one target: the words of it are those of the tool,
the option, the file and the target. -/
def Delegates (inv : Invocation) (tool file target : String) : Prop :=
  Text.words inv.command = Text.words tool ++ ["-f", file, target]

variable {inv : Invocation} {tool file target : String}

instance : Decidable (inv.Delegates tool file target) :=
  inferInstanceAs (Decidable (_ = _))

/-- A command that is put together in this way does so just for words. -/
theorem delegates_iff (h : inv.command = tool ++ " -f " ++ file ++ " " ++ target) :
    inv.Delegates tool file target ↔ Text.IsWord file ∧ Text.IsWord target := by
  rw [Delegates, h, Text.words_toolCall, List.append_cancel_left_eq, List.cons.injEq,
    eq_self, true_and, Text.words_append_eq_iff]

end Invocation

theorem Phase.isWord_target (phase : Phase) : Text.IsWord phase.target := by
  cases phase <;> exact ⟨by decide, by decide⟩

/-- The rule of a component's environment is one word if there is no space in its name. -/
theorem isWord_envRule_iff {name : String} :
    Text.IsWord (name ++ "/" ++ envTarget) ↔ ' ' ∉ name.toList := by
  have hrule : (name ++ "/" ++ envTarget).toList = name.toList ++ "/env".toList := by
    rw [String.append_assoc, String.toList_append]
    rfl
  have hspace : ' ' ∉ "/env".toList := by decide
  constructor
  · intro h hname
    exact h.no_space (hrule ▸ List.mem_append_left _ hname)
  · intro hname
    refine ⟨fun hempty => ?_, ?_⟩
    · rw [hempty] at hrule
      simp at hrule
    · rw [hrule, List.mem_append]
      exact fun h => h.elim hname hspace

namespace Project

variable {p : Project} {c : Component}

theorem phaseInvocation_delegates_iff (phase : Phase) :
    (p.phaseInvocation phase c).Delegates p.options.tool c.file phase.target ↔
      Text.IsWord c.file := by
  rw [Invocation.delegates_iff rfl, and_iff_left phase.isWord_target]

theorem runInvocation_delegates_iff (printed : String) :
    (p.runInvocation c printed).Delegates p.options.tool c.file Phase.run.target ↔
      Text.IsWord c.file := by
  rw [Invocation.delegates_iff rfl, and_iff_left Phase.run.isWord_target]

theorem envInvocation_delegates_iff (h : p.descriptor.hasOverride c.name envTarget = false) :
    (p.envInvocation c).Delegates p.options.tool c.file envTarget ↔ Text.IsWord c.file := by
  have hcommand : (p.envInvocation c).command = c.command p.options.tool envTarget := by
    rw [envInvocation, h, if_neg Bool.false_ne_true]
  have htarget : Text.IsWord envTarget := ⟨by decide, by decide⟩
  rw [Invocation.delegates_iff hcommand, and_iff_left htarget]

theorem command_envInvocation_of_override
    (h : p.descriptor.hasOverride c.name envTarget = true) :
    (p.envInvocation c).command = p.options.tool ++ " -f " ++ p.descriptor.fullPath.text ++ " " ++
      (c.name ++ "/" ++ envTarget) := by
  rw [envInvocation, if_pos h]
  simp only [String.append_assoc]

theorem envInvocation_delegates_root_iff
    (h : p.descriptor.hasOverride c.name envTarget = true) :
    (p.envInvocation c).Delegates p.options.tool p.descriptor.fullPath.text
        (c.name ++ "/" ++ envTarget) ↔
      Text.IsWord p.descriptor.fullPath.text ∧ ' ' ∉ c.name.toList := by
  rw [Invocation.delegates_iff (command_envInvocation_of_override h), isWord_envRule_iff]

end Project

/-! ### Names and calls -/

/-- A stem has the characters of the name. -/
theorem Path.mem_of_mem_stemOf {name : String} {x : Char} (h : x ∈ (stemOf name).toList) :
    x ∈ name.toList := by
  have hsuffix := List.dropWhile_suffix (l := name.toList.reverse) (· != '.')
  unfold stemOf at h
  split at h
  · exact h
  · exact h
  · rename_i dot stem _ hstem
    rw [String.toList_ofList, List.mem_reverse] at h
    rw [hstem] at hsuffix
    exact List.mem_reverse.mp (hsuffix.mem (List.mem_cons_of_mem dot h))

/-- **Where the commands of a component split.** For every project and each of its includes:

* whatever the tool and the target are, the component's command splits into the words of the tool,
  `-f`, the words of the component's file and those of the target;
* a call of a phase, the run call, and an environment call of the component's own file call the tool
  with that file and their target, exactly if the file is a word;
* where the root file supplies the environment, the command splits into the words of the tool, `-f`,
  the words of the root file's path and those of `component/env`, and the tool is called with that
  path and that rule, exactly if the path is a word and there is no space in the component's name;
* the file of an include that ends in a name is a word unless there is a space in the name, and only
  then there can be one in the name of the component. -/
theorem calls_split_at_spaces (p : Project) (i : Include) (hi : i ∈ p.descriptor.includes) :
    let c := Component.ofInclude i p.descriptor.baseDir p.options.binRoot
    let root := p.descriptor.fullPath.text
    c ∈ p.components ∧
      (∀ tool target, Shell.SplitsInto (c.command tool target)
        (Text.words tool ++ "-f" :: (Text.words c.file ++ Text.words target))) ∧
      (∀ phase, (p.phaseInvocation phase c).Delegates p.options.tool c.file phase.target ↔
        Text.IsWord c.file) ∧
      (∀ printed, (p.runInvocation c printed).Delegates p.options.tool c.file Phase.run.target ↔
        Text.IsWord c.file) ∧
      (p.descriptor.hasOverride c.name envTarget = false →
        ((p.envInvocation c).Delegates p.options.tool c.file envTarget ↔ Text.IsWord c.file)) ∧
      (p.descriptor.hasOverride c.name envTarget = true →
        Shell.SplitsInto (p.envInvocation c).command (Text.words p.options.tool ++
          "-f" :: (Text.words root ++ Text.words (c.name ++ "/" ++ envTarget))) ∧
        ((p.envInvocation c).Delegates p.options.tool root (c.name ++ "/" ++ envTarget) ↔
          Text.IsWord root ∧ ' ' ∉ c.name.toList)) ∧
      ∀ file, i.path.fileName = some file →
        c.file = file ∧ (Text.IsWord c.file ↔ ' ' ∉ file.toList) ∧
          (' ' ∈ c.name.toList → ' ' ∈ file.toList) := by
  intro c root
  refine ⟨List.mem_map_of_mem hi, fun tool target => ?_, Project.phaseInvocation_delegates_iff,
    Project.runInvocation_delegates_iff, Project.envInvocation_delegates_iff,
    fun hoverride => ⟨?_, Project.envInvocation_delegates_root_iff hoverride⟩,
    fun file hfile => ?_⟩
  · exact Shell.splitsInto_iff.mpr (Text.words_toolCall tool c.file target)
  · rw [Shell.splitsInto_iff, Project.command_envInvocation_of_override hoverride,
      Text.words_toolCall]
  · have hc : c.file = file := Include.file_ofInclude hfile _ _
    have hname : c.name = Path.stemOf file := Include.name_ofInclude hfile _ _
    have hne : file ≠ "" := (Path.isPlain_of_fileName hfile).ne_empty
    rw [hc, hname]
    exact ⟨rfl, ⟨Text.IsWord.no_space, fun h => ⟨hne, h⟩⟩, Path.mem_of_mem_stemOf⟩

/-- A space in the path of the root file is a break in the environment call that the root file
supplies, though the component's own calls come through. -/
theorem calls_split_at_spaces_of_root :
    let i : Include := ⟨⟨"lib/web-api.mk"⟩, none⟩
    let d : Descriptor := ⟨[], [i], [⟨"web-api", "env"⟩], ⟨"/my project/main.mk"⟩⟩
    let p : Project := ⟨d, ⟨"make -s", ⟨"/bin"⟩, "DEST", 12⟩⟩
    let c := Component.ofInclude i d.baseDir p.options.binRoot
    i ∈ d.includes ∧ d.hasOverride c.name envTarget = true ∧ i.path.fileName = some "web-api.mk" ∧
      (p.phaseInvocation .build c).Delegates "make -s" "web-api.mk" "build" ∧
      Shell.Reads (p.envInvocation c).command
        ["make", "-s", "-f", "/my", "project/main.mk", "web-api/env"] ∧
      ¬ (p.envInvocation c).Delegates "make -s" "/my project/main.mk" "web-api/env" := by
  intro i d p c
  have hi : i ∈ p.descriptor.includes := by decide
  have hoverride : p.descriptor.hasOverride c.name envTarget = true := by decide
  have hfile : i.path.fileName = some "web-api.mk" := by decide
  obtain ⟨-, -, hphase, -, -, henv, hname⟩ := calls_split_at_spaces p i hi
  obtain ⟨hc, hword, -⟩ := hname "web-api.mk" hfile
  obtain ⟨hsplits, hdelegates⟩ := henv hoverride
  refine ⟨hi, hoverride, hfile, ?_, ?_, fun h => ?_⟩
  · exact hc ▸ (hphase .build).mpr (hword.mpr (by decide))
  · have hwords : Text.words p.options.tool ++ "-f" :: (Text.words p.descriptor.fullPath.text ++
        Text.words (c.name ++ "/" ++ envTarget)) =
          ["make", "-s", "-f", "/my", "project/main.mk", "web-api/env"] := by decide
    exact hwords ▸ hsplits.reads
      ⟨by decide, by decide, "make", by decide, by decide, by decide⟩
  · have hrule : c.name ++ "/" ++ envTarget = "web-api/env" := by decide
    rw [← hrule] at h
    exact absurd (hdelegates.mp h).1.no_space (by decide)

/-- A space in the name of an include is a break in every call of its component, though the include
is accepted. -/
theorem accepted_include_splits :
    let files := (({} : FileStore).addFile ⟨"/p/main.mk"⟩ "include my api.mk\n").addFile
      ⟨"/p/my api.mk"⟩ ""
    let i : Include := ⟨⟨"my api.mk"⟩, none⟩
    let d : Descriptor := ⟨[], [i], [], ⟨"/p/main.mk"⟩⟩
    let p : Project := ⟨d, ⟨"make -s", ⟨"/bin"⟩, "DEST", 12⟩⟩
    let c := Component.ofInclude i d.baseDir p.options.binRoot
    Descriptor.loadValid files.view ⟨"/p/main.mk"⟩ = .ok d ∧ p.components = [c] ∧
      c.file = "my api.mk" ∧
      Shell.Reads (p.phaseInvocation .build c).command
        ["make", "-s", "-f", "my", "api.mk", "build"] ∧
      ¬ (p.phaseInvocation .build c).Delegates "make -s" "my api.mk" "build" := by
  intro files i d p c
  have hwords : Text.words (p.phaseInvocation .build c).command =
      ["make", "-s", "-f", "my", "api.mk", "build"] := by decide
  refine ⟨by decide, by decide, by decide, ?_, by decide⟩
  exact (Shell.splitsInto_iff.mpr hwords).reads
    ⟨by decide, by decide, "make", by decide, by decide, by decide⟩

end Ensemble
