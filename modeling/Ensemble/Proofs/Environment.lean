import Mathlib.Data.List.Induction
import Mathlib.Data.List.Perm.Basic
import Mathlib.Data.List.TakeWhile
import Mathlib.Logic.Function.Basic
import Ensemble.Proofs.RunCalls
import Ensemble.ShellRunner

/-!
# Ensemble.Proofs.Environment

**What a run call finds in its environment.** The bindings of a run call are those that the
environment call printed, and the destination behind them. The main result,
`runCall_environment`, says which value that leaves for a variable: the destination for the variable
that is named for it, whatever has been printed; for another one the value of the last line that
binds it; and for one that no line binds, the value that is inherited.

A list of bindings is read in three ways, and they are shown to agree: `Binding.overlay` lays the
bindings over an environment one after the other, `Binding.lookup` searches them from the end, and
the shell runner keeps one for each key (`Invocation.bindings`). Which lines of a text bind a
variable is said without the reader of lines (`Binding.Binds`).
-/

namespace Ensemble

/-! ### Trimmed texts -/

namespace Text

/-- Neither the first nor the last of these characters is a blank. -/
def Bare (cs : List Char) : Prop :=
  (∀ c ∈ cs.head?, isBlank c = false) ∧ ∀ c ∈ cs.getLast?, isBlank c = false

theorem dropWhile_isBlank_append {blanks cs : List Char} (h : ∀ c ∈ blanks, isBlank c = true)
    (hcs : ∀ c ∈ cs.head?, isBlank c = false) : (blanks ++ cs).dropWhile isBlank = cs := by
  rw [List.dropWhile_append_of_pos h]
  cases cs with
  | nil => rfl
  | cons c cs => simp [hcs c rfl]

theorem head?_dropWhile_isBlank (cs : List Char) :
    ∀ c ∈ (cs.dropWhile isBlank).head?, isBlank c = false := by
  intro c hc
  have h := List.head?_dropWhile_not isBlank cs
  rw [Option.mem_def.mp hc] at h
  simpa using h

/-- The blanks at the end, cut off. -/
theorem exists_blanks_behind (cs : List Char) :
    ∃ after, cs = (cs.reverse.dropWhile isBlank).reverse ++ after ∧
      ∀ c ∈ after, isBlank c = true := by
  refine ⟨(cs.reverse.takeWhile isBlank).reverse, ?_, ?_⟩
  · rw [← List.reverse_append, List.takeWhile_append_dropWhile, List.reverse_reverse]
  · intro c hc
    exact List.mem_takeWhile_imp (List.mem_reverse.mp hc)

/-- Trimming takes blanks from both ends, and all of them. -/
theorem trimBlanks_eq_iff {cs bare : List Char} :
    trimBlanks cs = bare ↔ Bare bare ∧ ∃ before after, cs = before ++ bare ++ after ∧
      (∀ c ∈ before, isBlank c = true) ∧ ∀ c ∈ after, isBlank c = true := by
  constructor
  · rintro rfl
    obtain ⟨after, hafter, hblank⟩ := exists_blanks_behind (cs.dropWhile isBlank)
    refine ⟨⟨?_, ?_⟩, cs.takeWhile isBlank, after, ?_, fun c => List.mem_takeWhile_imp, hblank⟩
    · intro c (hc : List.head? (List.reverse _) = some c)
      refine head?_dropWhile_isBlank cs c ?_
      rw [hafter, List.head?_append, hc]
      rfl
    · intro c hc
      rw [trimBlanks, List.getLast?_reverse] at hc
      exact head?_dropWhile_isBlank _ c hc
    · rw [List.append_assoc, trimBlanks, ← hafter, List.takeWhile_append_dropWhile]
  · rintro ⟨⟨hhead, hlast⟩, before, after, rfl, hbefore, hafter⟩
    by_cases hbare : bare = []
    · subst hbare
      rw [trimBlanks_eq_nil_iff]
      simpa [or_imp, forall_and] using ⟨hbefore, hafter⟩
    · have hhead' : ∀ c ∈ (bare ++ after).head?, isBlank c = false := by
        rwa [List.head?_append_of_ne_nil _ hbare]
      have hlast' : ∀ c ∈ bare.reverse.head?, isBlank c = false := by rwa [List.head?_reverse]
      have hafter' : ∀ c ∈ after.reverse, isBlank c = true := fun c hc =>
        hafter c (List.mem_reverse.mp hc)
      rw [trimBlanks, List.append_assoc, dropWhile_isBlank_append hbefore hhead',
        List.reverse_append, dropWhile_isBlank_append hafter' hlast', List.reverse_reverse]

/-- A text between blanks. -/
def Padded (bare padded : String) : Prop :=
  Bare bare.toList ∧ ∃ before after, padded = before ++ bare ++ after ∧
    isAllBlank before = true ∧ isAllBlank after = true

theorem trim_eq_iff {padded bare : String} : trim padded = bare ↔ Padded bare padded := by
  have htrim : trim padded = bare ↔ trimBlanks padded.toList = bare.toList := by
    rw [← String.toList_inj, trim, String.toList_ofList]
  rw [htrim, trimBlanks_eq_iff, Padded]
  refine and_congr_right fun _ => ⟨?_, ?_⟩
  · rintro ⟨before, after, hpadded, hbefore, hafter⟩
    refine ⟨.ofList before, .ofList after, ?_, ?_, ?_⟩
    · rw [← String.toList_inj, hpadded]
      simp
    · simpa [isAllBlank] using hbefore
    · simpa [isAllBlank] using hafter
  · rintro ⟨before, after, rfl, hbefore, hafter⟩
    exact ⟨before.toList, after.toList, by simp, List.all_eq_true.mp hbefore,
      List.all_eq_true.mp hafter⟩

end Text

/-! ### The lines that bind a variable -/

namespace Binding

/-- A line binds a key to a value if they stand before and behind its first equals sign, between
blanks, and the key is not empty. -/
def Binds (line key value : String) : Prop :=
  key ≠ "" ∧ ∃ before after, line = before ++ "=" ++ after ∧ '=' ∉ before.toList ∧
    Text.Padded key before ∧ Text.Padded value after

theorem ofLine?_eq_some_iff {line key value : String} :
    ofLine? line = some ⟨key, value⟩ ↔ Binds line key value := by
  have hline : ofLine? line = some ⟨key, value⟩ ↔ ∃ before after,
      Text.splitFirst '=' line.toList = some (before, after) ∧ key ≠ "" ∧
        Text.trim (.ofList before) = key ∧ Text.trim (.ofList after) = value := by
    unfold ofLine?
    simp only [Option.bind_eq_bind, Option.bind_eq_some_iff, Prod.exists, Text.trim,
      String.toList_ofList]
    refine exists_congr fun before => exists_congr fun after => and_congr_right fun _ => ?_
    split
    · rename_i hkey
      simp only [hkey, reduceCtorEq, false_iff, not_and]
      rintro hne rfl
      exact absurd rfl hne
    · rename_i hkey
      simp only [Option.some.injEq, mk.injEq, ne_eq, iff_and_self, and_imp]
      rintro rfl - h
      exact hkey (by simpa using congrArg String.toList h)
  rw [hline, Binds]
  constructor
  · rintro ⟨before, after, hsplit, hkey, hbefore, hafter⟩
    obtain ⟨hcut, hmem⟩ := Text.splitFirst_eq_some_iff.mp hsplit
    refine ⟨hkey, .ofList before, .ofList after, ?_, by simpa using hmem,
      Text.trim_eq_iff.mp hbefore, Text.trim_eq_iff.mp hafter⟩
    rw [← String.toList_inj, hcut]
    simp
  · rintro ⟨hkey, before, after, rfl, hmem, hbefore, hafter⟩
    refine ⟨before.toList, after.toList, Text.splitFirst_eq_some_iff.mpr ⟨by simp, hmem⟩, hkey, ?_,
      ?_⟩
    · simpa using Text.trim_eq_iff.mpr hbefore
    · simpa using Text.trim_eq_iff.mpr hafter

/-- The last line of a text that binds a key binds it to this value. -/
def LastBinds (text key value : String) : Prop :=
  ∃ before line after, Text.lines text = before ++ line :: after ∧ Binds line key value ∧
    ∀ later ∈ after, ∀ value', ¬Binds later key value'

/-! ### Bindings read in order -/

/-- An environment with one binding laid over it. -/
def assign (environment : String → Option String) (b : Binding) : String → Option String :=
  Function.update environment b.key (some b.value)

/-- An environment with bindings laid over it, one after the other. -/
def overlay (inherited : String → Option String) (bindings : List Binding) :
    String → Option String :=
  bindings.foldl assign inherited

theorem lookup_append (bindings bindings' : List Binding) (key : String) :
    lookup (bindings ++ bindings') key = (lookup bindings' key).or (lookup bindings key) := by
  rw [lookup, List.reverse_append, List.find?_append, Option.map_or]
  rfl

@[simp] theorem lookup_nil (key : String) : lookup [] key = none := rfl

theorem lookup_singleton (b : Binding) (key : String) :
    lookup [b] key = if b.key = key then some b.value else none := by
  by_cases h : b.key = key <;> simp [lookup, h]

/-- **The two readings of a list of bindings agree**: what the search from the end finds is what is
left when the bindings are laid over an environment in order, and where it finds nothing the
environment shows through. -/
theorem overlay_eq_or (inherited : String → Option String) (bindings : List Binding)
    (key : String) : overlay inherited bindings key = (lookup bindings key).or (inherited key) := by
  induction bindings using List.reverseRecOn with
  | nil => rfl
  | append_singleton bindings b ih =>
      rw [overlay, List.foldl_append, List.foldl_cons, List.foldl_nil, ← overlay, assign,
        lookup_append, lookup_singleton]
      by_cases h : b.key = key
      · subst h
        simp
      · rw [Function.update_of_ne (Ne.symm h), if_neg h, ih, Option.none_or]

theorem any_ofLine?_iff {line key : String} :
    (ofLine? line).any (·.key == key) = true ↔ ∃ value, Binds line key value := by
  simp only [Option.any_eq_true, beq_iff_eq, ← ofLine?_eq_some_iff]
  constructor
  · rintro ⟨⟨_, value⟩, h, rfl⟩
    exact ⟨value, h⟩
  · rintro ⟨value, h⟩
    exact ⟨_, h, rfl⟩

/-- The search from the end finds the last line that binds the key. -/
theorem lookup_parseAll_eq_some_iff {text key value : String} :
    lookup (parseAll text) key = some value ↔ LastBinds text key value := by
  have hlines : lookup (parseAll text) key = some value ↔ ∃ line,
      (Text.lines text).reverse.find? (fun line => (ofLine? line).any (·.key == key)) = some line ∧
        Binds line key value := by
    rw [lookup, parseAll, ← List.filterMap_reverse, List.find?_filterMap, Option.map_bind,
      Option.bind_eq_some_iff]
    refine exists_congr fun line => and_congr_right fun hfound => ?_
    have hany : (ofLine? line).any (·.key == key) = true := by
      simpa using List.find?_some hfound
    obtain ⟨value', h⟩ := any_ofLine?_iff.mp hany
    rw [← ofLine?_eq_some_iff, Function.comp_apply, ofLine?_eq_some_iff.mpr h]
    simp
  have hnone : ∀ line, (!(ofLine? line).any (·.key == key)) = true ↔
      ∀ value', ¬Binds line key value' := fun line => by
    rw [Bool.not_eq_true', Bool.eq_false_iff, ne_eq, any_ofLine?_iff, not_exists]
  rw [hlines, LastBinds]
  simp only [List.find?_eq_some_iff_append, List.reverse_eq_append_iff, hnone]
  constructor
  · rintro ⟨line, ⟨-, after, before, hcut, hafter⟩, hbinds⟩
    refine ⟨before.reverse, line, after.reverse, by simpa using hcut, hbinds, fun later h => ?_⟩
    exact hafter later (List.mem_reverse.mp h)
  · rintro ⟨before, line, after, hcut, hbinds, hafter⟩
    refine ⟨line, ⟨any_ofLine?_iff.mpr ⟨value, hbinds⟩, after.reverse, before.reverse,
      by simpa using hcut, fun later h => ?_⟩, hbinds⟩
    exact hafter later (List.mem_reverse.mp h)

end Binding

/-! ### The bindings that a shell is given -/

/-- Every text has its own octets. -/
theorem Text.Octets.ofText_injective : Function.Injective Text.Octets.ofText := by
  intro s t h
  have hbytes := congrArg Text.Octets.toBytes h
  rw [ofText, ofText, toBytes_ofBytes, toBytes_ofBytes] at hbytes
  have htext := congrArg Text.Utf8.decode? hbytes
  rwa [Text.Utf8.decode?_encode, Text.Utf8.decode?_encode, Option.some.injEq] at htext

namespace Invocation

/-- If no key occurs twice, what is looked up is what is there. -/
theorem lookup_eq_some_iff_mem {bindings : List (String × String)}
    (h : (bindings.map Prod.fst).Nodup) {key value : String} :
    bindings.lookup key = some value ↔ (key, value) ∈ bindings := by
  induction bindings with
  | nil => simp
  | cons b bindings ih =>
      obtain ⟨key', value'⟩ := b
      rw [List.map_cons, List.nodup_cons] at h
      rw [List.lookup_cons, List.mem_cons, Prod.mk.injEq]
      by_cases hkey : key = key'
      · subst hkey
        have habsent : (key, value) ∉ bindings := fun hmem =>
          h.1 (List.mem_map.mpr ⟨_, hmem, rfl⟩)
        simp [habsent, eq_comm]
      · simp [beq_eq_false_iff_ne.mpr hkey, hkey, ih h.2]

/-- The order does not matter if no key occurs twice. -/
theorem lookup_eq_of_perm {bindings bindings' : List (String × String)}
    (h : bindings.Perm bindings') (hkeys : (bindings'.map Prod.fst).Nodup) (key : String) :
    bindings.lookup key = bindings'.lookup key := by
  refine Option.ext fun value => ?_
  rw [lookup_eq_some_iff_mem ((h.map Prod.fst).nodup_iff.mpr hkeys), lookup_eq_some_iff_mem hkeys,
    h.mem_iff]

/-- One more binding is kept, unless there is one for its key. -/
def keep (kept : List (String × String)) (b : String × String) : List (String × String) :=
  if (kept.lookup b.1).isSome then kept else b :: kept

theorem lookup_keep (kept : List (String × String)) (b : String × String) (key : String) :
    (keep kept b).lookup key = (kept.lookup key).or ([b].lookup key) := by
  obtain ⟨key', value⟩ := b
  unfold keep
  by_cases hkey : key = key'
  · subst hkey
    cases hkept : kept.lookup key <;> simp [hkept]
  · have hother : [(key', value)].lookup key = none := by
      simp [beq_eq_false_iff_ne.mpr hkey, List.lookup_cons]
    rw [hother, Option.or_none]
    split
    · rfl
    · rw [List.lookup_cons, beq_eq_false_iff_ne.mpr hkey]

theorem lookup_foldl_keep (kept bindings : List (String × String)) (key : String) :
    (bindings.foldl keep kept).lookup key = (kept.lookup key).or (bindings.lookup key) := by
  induction bindings generalizing kept with
  | nil => simp
  | cons b bindings ih =>
      rw [List.foldl_cons, ih, lookup_keep, ← List.singleton_append (l := bindings),
        List.lookup_append, Option.or_assoc]

theorem nodup_foldl_keep (kept bindings : List (String × String))
    (h : (kept.map Prod.fst).Nodup) : ((bindings.foldl keep kept).map Prod.fst).Nodup := by
  induction bindings generalizing kept with
  | nil => exact h
  | cons b bindings ih =>
      refine ih _ ?_
      unfold keep
      split
      · exact h
      · rename_i hkept
        refine List.nodup_cons.mpr ⟨fun hmem => hkept ?_, h⟩
        obtain ⟨⟨key, value⟩, hmem, rfl⟩ := List.mem_map.mp hmem
        rw [(lookup_eq_some_iff_mem h).mpr hmem, Option.isSome_some]

theorem lookup_octets (bindings : List Binding) (key : String) :
    (bindings.map fun b => (Text.Octets.ofText b.key, Text.Octets.ofText b.value)).reverse.lookup
      (Text.Octets.ofText key) = (Binding.lookup bindings key).map Text.Octets.ofText := by
  rw [Binding.lookup, ← List.map_reverse]
  induction bindings.reverse with
  | nil => rfl
  | cons b bindings ih =>
      rw [List.map_cons, List.lookup_cons, List.find?_cons]
      by_cases h : b.key = key
      · simp [h]
      · have hoctets : Text.Octets.ofText key ≠ Text.Octets.ofText b.key := fun he =>
          h (Text.Octets.ofText_injective he).symm
        rw [beq_eq_false_iff_ne.mpr h, beq_eq_false_iff_ne.mpr hoctets]
        exact ih

/-- **A shell finds what is left of the bindings in order**, laid over what the world has. -/
theorem lookup_bindings {inv : Invocation} (h : inv.env ≠ []) (w : World) (key : String) :
    (inv.bindings w).lookup (Text.Octets.ofText key) =
      (Binding.overlay (Binding.lookup w.environment) inv.env key).map Text.Octets.ofText := by
  let octets (b : Binding) := (Text.Octets.ofText b.key, Text.Octets.ofText b.value)
  let all := ((w.environment ++ inv.env).map octets).reverse
  have hbindings : inv.bindings w =
      (all.foldl keep []).mergeSort fun a b => decide (a.1 ≤ b.1) := by
    rw [bindings, if_neg (by simpa using h)]
    simp only [all, List.map_append]
    rfl
  have hkeys : ((all.foldl keep []).map Prod.fst).Nodup := nodup_foldl_keep [] all List.nodup_nil
  rw [hbindings, lookup_eq_of_perm (List.mergeSort_perm _ _) hkeys, lookup_foldl_keep,
    List.lookup_nil, Option.none_or, lookup_octets, Binding.lookup_append, Binding.overlay_eq_or]

end Invocation

/-! ### The run call -/

/-- The search from the end, in the bindings of a run call. -/
theorem Project.envValue_runInvocation (p : Project) (c : Component) (printed key : String) :
    (p.runInvocation c printed).envValue key =
      if p.options.destVar = key then some c.dest.text
      else Binding.lookup (Binding.parseAll printed) key := by
  rw [Invocation.envValue, runInvocation, runBindings, Binding.lookup_append,
    Binding.lookup_singleton]
  change (if p.options.destVar = key then some c.dest.text else none).or _ = _
  split <;> rfl

open Binding RunPhase in
/-- **Which value a variable has for a run call.** For every component and everything that its
environment call can print:

* the bindings of the run call are those that are printed, and the destination behind them;
* laid over any environment in this order, they give the variable that is named for the destination
  the destination, and another one the value of the last printed line that binds it, if there is
  one; then that is also what the invocation says. If there is none, the value is inherited, and the
  invocation says nothing;
* what a shell is given is what they leave of the environment of the world;
* and in every run, with any runner, a worker makes no other call than its environment call and,
  at most, the run call for what that one was answered. -/
theorem runCall_environment (p : Project) (c : Component) :
    (∀ printed,
      let inv := p.runInvocation c printed
      inv.env = parseAll printed ++ [⟨p.options.destVar, c.dest.text⟩] ∧
      (∀ inherited key,
        let value? := overlay inherited inv.env key
        (key = p.options.destVar →
          value? = some c.dest.text ∧ inv.envValue key = some c.dest.text) ∧
        (∀ value, key ≠ p.options.destVar → LastBinds printed key value →
          value? = some value ∧ inv.envValue key = some value) ∧
        (key ≠ p.options.destVar → (¬∃ value, LastBinds printed key value) →
          value? = inherited key ∧ inv.envValue key = none)) ∧
      ∀ (w : World) key, (inv.bindings w).lookup (Text.Octets.ofText key) =
        (overlay (lookup w.environment) inv.env key).map Text.Octets.ofText) ∧
    ∀ {σ : Type} (r : Runner σ) (host : Host σ) {number : Nat}, p.components[number]? = some c →
      let own := deeds (share number (turns r p host))
      ∃ behind, Event.calls own = p.envInvocation c :: behind ∧
        (behind = [] ∨ ∃ printed, behind = [p.runInvocation c printed] ∧
          (p.envInvocation c, .ok printed) ∈ Event.answers own) := by
  refine ⟨fun printed => ?_, fun r host number h => calls_share r host h⟩
  intro inv
  have hne : inv.env ≠ [] := by
    rw [show inv.env = parseAll printed ++ [p.destBinding c] from rfl]
    simp
  refine ⟨rfl, ?_, Invocation.lookup_bindings hne⟩
  intro inherited key value?
  have hvalue : value? = (inv.envValue key).or (inherited key) := overlay_eq_or _ _ _
  have henv := p.envValue_runInvocation c printed key
  refine ⟨?_, ?_, ?_⟩
  · rintro rfl
    rw [if_pos rfl] at henv
    exact ⟨by rw [hvalue, henv, Option.some_or], henv⟩
  · intro value hkey hlast
    rw [if_neg (Ne.symm hkey), lookup_parseAll_eq_some_iff.mpr hlast] at henv
    exact ⟨by rw [hvalue, henv, Option.some_or], henv⟩
  · intro hkey hnone
    have habsent : lookup (parseAll printed) key = none := by
      refine Option.eq_none_iff_forall_ne_some.mpr fun value h => ?_
      exact hnone ⟨value, lookup_parseAll_eq_some_iff.mp h⟩
    rw [if_neg (Ne.symm hkey), habsent] at henv
    exact ⟨by rw [hvalue, henv, Option.none_or], henv⟩

/-- Lines that imitate the destination are of no use, and of two lines for one variable the second
counts. -/
theorem runCall_environment_imitated :
    let i : Include := ⟨⟨"api/api.mk"⟩, none⟩
    let p : Project := ⟨⟨[], [i], [], ⟨"/project/root.mk"⟩⟩, ⟨"make", ⟨"/bin"⟩, "DEST", 12⟩⟩
    let c := Component.ofInclude i p.descriptor.baseDir p.options.binRoot
    let printed := "A = 1 \n\tDEST = /elsewhere\r\nDEST=\n=2\ntalk\nA=3=4\u00a0\n"
    let inherited : String → Option String := fun key => if key = "HOME" then some "/root" else none
    let inv := p.runInvocation c printed
    (∀ key, (Binding.overlay inherited inv.env key, inv.envValue key) =
      if key = "DEST" then (some "/bin/api", some "/bin/api")
      else if key = "A" then (some "3=4", some "3=4")
      else (inherited key, none)) ∧
    ∃ behind, Event.calls
        (RunPhase.deeds (RunPhase.share 0 (RunPhase.turns shellRunner p ⟨{}, .sound⟩))) =
      p.envInvocation c :: behind := by
  intro i p c printed inherited inv
  obtain ⟨hprinted, hruns⟩ := runCall_environment p c
  obtain ⟨-, hvalues, -⟩ := hprinted printed
  have hparsed : Binding.parseAll printed =
      [⟨"A", "1"⟩, ⟨"DEST", "/elsewhere"⟩, ⟨"DEST", ""⟩, ⟨"A", "3=4"⟩] := by decide
  refine ⟨fun key => ?_, ?_⟩
  · obtain ⟨hdest, hlast, hnone⟩ := hvalues inherited key
    split
    · rename_i h
      have hto : c.dest.text = "/bin/api" := by decide
      obtain ⟨hlaid, hsaid⟩ := hto ▸ hdest h
      exact congrArg₂ Prod.mk hlaid hsaid
    · rename_i h
      split
      · rename_i hA
        have hbinds : Binding.LastBinds printed key "3=4" := by
          rw [← Binding.lookup_parseAll_eq_some_iff, hparsed, hA]
          decide
        obtain ⟨hlaid, hsaid⟩ := hlast "3=4" h hbinds
        exact congrArg₂ Prod.mk hlaid hsaid
      · rename_i hA
        have habsent : ¬∃ value, Binding.LastBinds printed key value := by
          rintro ⟨value, hbinds⟩
          rw [← Binding.lookup_parseAll_eq_some_iff, hparsed] at hbinds
          simp [Binding.lookup, Ne.symm h, Ne.symm hA] at hbinds
        obtain ⟨hlaid, hsaid⟩ := hnone h habsent
        exact congrArg₂ Prod.mk hlaid hsaid
  · obtain ⟨behind, hcalls, -⟩ :=
      hruns shellRunner ⟨{}, .sound⟩ (show p.components[0]? = some c from rfl)
    exact ⟨behind, hcalls⟩

end Ensemble
