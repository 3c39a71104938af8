import Ensemble.FileStore
import Ensemble.Proofs.Environment
import Ensemble.Proofs.Segments

/-!
# Ensemble.Proofs.Destinations

**Where artifacts go.** Every call of a component is told one destination, the component's name
below the root of all artifacts. The name is the stem of the include's file name, wherever the file
lies. The main result, `destinations_by_stem`, says what this amounts to in the tree: the
destination is a child of the root, and two includes have the same one exactly if their stems agree.

Two stems are left out, as they name no child: behind a slash `.` says nothing and `..` goes up.
-/

namespace Ensemble

/-- The include's path ends in a file name with this stem, and the stem is a name. -/
structure Include.HasStem (i : Include) (stem : String) : Prop where
  fileStem_eq : i.path.fileStem = some stem
  ne_here : stem ≠ "."
  ne_up : stem ≠ ".."

namespace Project

/-- The destination that every call of a component for a target of its own is told, whatever its
environment call prints. -/
def Tells (p : Project) (c : Component) (dest : Path) : Prop :=
  (∀ phase, (p.phaseInvocation phase c).envValue p.options.destVar = some dest.text) ∧
    ∀ printed, (p.runInvocation c printed).envValue p.options.destVar = some dest.text

theorem tells_dest (p : Project) (c : Component) : p.Tells c c.dest := by
  refine ⟨fun phase => ?_, fun printed => ?_⟩
  · rw [Invocation.envValue, phaseInvocation, Binding.lookup_singleton]
    exact if_pos rfl
  · rw [envValue_runInvocation]
    exact if_pos rfl

end Project

namespace Include

variable {i i' : Include} {stem stem' : String}

/-- A stem that is a name is plain. -/
theorem HasStem.isPlain (h : i.HasStem stem) : Path.IsPlain stem := by
  obtain ⟨file, hfile, rfl⟩ := Option.map_eq_some_iff.mp h.fileStem_eq
  exact (Path.isPlain_of_fileName hfile).stemOf h.ne_here h.ne_up

/-- A component's destination is a child of the root of all artifacts. -/
theorem HasStem.normal_dest (h : i.HasStem stem) (base binRoot : Path) :
    (Component.ofInclude i base binRoot).dest.normal =
      ⟨binRoot.normal.absolute, binRoot.normal.names ++ [stem]⟩ := by
  have hname : i.componentName = stem := by rw [componentName, h.fileStem_eq, Option.getD_some]
  have hdest : (Component.ofInclude i base binRoot).dest = binRoot.join ⟨stem⟩ :=
    congrArg (fun name => binRoot.join ⟨name⟩) hname
  rw [hdest, Path.normal_join, h.isPlain.segments_eq]
  rfl

/-- Two children are the same exactly if their names are. -/
theorem HasStem.normal_dest_inj (h : i.HasStem stem) (h' : i'.HasStem stem') (base binRoot : Path) :
    (Component.ofInclude i base binRoot).dest.normal =
        (Component.ofInclude i' base binRoot).dest.normal ↔ stem = stem' := by
  rw [h.normal_dest, h'.normal_dest]
  simp

end Include

/-- **The layout of destinations.** For every project, however its root of artifacts is spelled:

* a component whose file name has a stem that is a name is told a destination that is a child of the
  root of artifacts, and its name is the stem;
* two such components have the same destination exactly if their stems are the same. -/
theorem destinations_by_stem (p : Project) :
    let component (i : Include) := Component.ofInclude i p.descriptor.baseDir p.options.binRoot
    let root := p.options.binRoot.normal
    (∀ i ∈ p.descriptor.includes, ∀ stem, i.HasStem stem →
      component i ∈ p.components ∧ p.Tells (component i) (component i).dest ∧
        (component i).dest.normal = ⟨root.absolute, root.names ++ [stem]⟩) ∧
    ∀ i ∈ p.descriptor.includes, ∀ i' ∈ p.descriptor.includes, ∀ stem stem',
      i.HasStem stem → i'.HasStem stem' →
        ((component i).dest.normal = (component i').dest.normal ↔ stem = stem') := by
  intro component root
  refine ⟨fun i hi stem h => ⟨?_, p.tells_dest _, h.normal_dest _ _⟩, ?_⟩
  · exact List.mem_map_of_mem hi
  · intro i _ i' _ stem stem' h h'
    exact h.normal_dest_inj h' _ _

/-- Two components of a file store: of a file name with two dots the last one counts. -/
theorem destinations_by_stem_of_two :
    let files := ((({} : FileStore).addFile ⟨"/p/main.mk"⟩
      "include api/x.mk\ninclude ../web/y.tar.mk\n").addFile ⟨"/p/api/x.mk"⟩ "").addFile
      ⟨"/web/y.tar.mk"⟩ ""
    let x : Include := ⟨⟨"api/x.mk"⟩, none⟩
    let y : Include := ⟨⟨"../web/y.tar.mk"⟩, none⟩
    let p : Project :=
      ⟨⟨[], [x, y], [], ⟨"/p/main.mk"⟩⟩, ⟨"make", ⟨"/p/.bin/"⟩, "DEST", 12⟩⟩
    let component (i : Include) := Component.ofInclude i p.descriptor.baseDir p.options.binRoot
    Descriptor.loadValid files.view ⟨"/p/main.mk"⟩ = .ok p.descriptor ∧
      x.HasStem "x" ∧ y.HasStem "y.tar" ∧
      p.Tells (component y) (component y).dest ∧
      (component y).dest.normal = ⟨true, ["p", ".bin", "y.tar"]⟩ ∧
      (component x).dest.normal ≠ (component y).dest.normal := by
  intro files x y p component
  have hx : x.HasStem "x" := ⟨by decide, by decide, by decide⟩
  have hy : y.HasStem "y.tar" := ⟨by decide, by decide, by decide⟩
  obtain ⟨hchild, hsame⟩ := destinations_by_stem p
  have hroot : p.options.binRoot.normal = ⟨true, ["p", ".bin"]⟩ := by decide
  obtain ⟨-, htells, hdest⟩ := hchild y (by decide) "y.tar" hy
  rw [hroot] at hdest
  refine ⟨rfl, hx, hy, htells, hdest, fun heq => ?_⟩
  exact absurd ((hsame x (by decide) y (by decide) "x" "y.tar" hx hy).mp heq) (by decide)

/-- Four includes that are accepted. Two lie in different directories but share a destination; the
destination of the third is the root of artifacts itself, and that of the fourth is above it. -/
theorem destinations_shared_and_outside :
    let files := ((((({} : FileStore).addFile ⟨"/p/main.mk"⟩
      "include api/x.mk\ninclude web/x.mk\ninclude odd/..mk\ninclude odd/...mk\n").addFile
      ⟨"/p/api/x.mk"⟩ "").addFile ⟨"/p/web/x.mk"⟩ "").addFile ⟨"/p/odd/..mk"⟩ "").addFile
      ⟨"/p/odd/...mk"⟩ ""
    let api : Include := ⟨⟨"api/x.mk"⟩, none⟩
    let web : Include := ⟨⟨"web/x.mk"⟩, none⟩
    let odd : Include := ⟨⟨"odd/..mk"⟩, none⟩
    let odder : Include := ⟨⟨"odd/...mk"⟩, none⟩
    let d : Descriptor := ⟨[], [api, web, odd, odder], [], ⟨"/p/main.mk"⟩⟩
    let binRoot : Path := ⟨"/p/bin"⟩
    let dest (i : Include) := (Component.ofInclude i d.baseDir binRoot).dest.normal
    Descriptor.loadValid files.view ⟨"/p/main.mk"⟩ = .ok d ∧
      (api.resolve d.baseDir).normal ≠ (web.resolve d.baseDir).normal ∧ dest api = dest web ∧
      dest odd = binRoot.normal ∧ dest odder = ⟨true, ["p"]⟩ := by
  refine ⟨rfl, by decide, rfl, rfl, rfl⟩

end Ensemble
