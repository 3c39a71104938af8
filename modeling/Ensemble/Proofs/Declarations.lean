import Ensemble.Proofs.Rendering

/-!
# Ensemble.Proofs.Declarations

**What a root file declares is read, unless an override covers it.** The second line of a check and
of an external label is told by its keyword, but that of an override by its marks alone, so it may
begin with a keyword as well. Such a line declares nothing: it is *covered*.

The main result, `declarations_balance`, says that nothing else is lost. Of the lines that begin
with a keyword, each declares its directive or is covered, and so the directives of a kind are as
many as the lines that begin with its keyword exactly if no line that begins with one is covered. It
is a balance of each block (`Block.balance`), for a line stands in one block and not in two.
-/

namespace Ensemble

/-! ### Lines that begin with a keyword -/

namespace Keyword

/-- Does the line begin with the keyword? -/
def begins (k : Keyword) (line : String) : Bool :=
  (k.strip line).isSome

/-- The directives that a line declares which begins with the keyword. An included component is
declared by its own line, and its label by the line before. -/
def declares : Keyword → Directive → Bool
  | .component, .component _ => true
  | .check, .check _ => true
  | .external, .component i => i.label.isSome
  | .override, .override _ => true
  | _, _ => false

theorem begins_iff {k : Keyword} {line : String} :
    k.begins line ↔ ∃ rest, line = k.lead ++ rest := by
  rw [begins, strip, Option.isSome_iff_exists]
  exact exists_congr fun rest => Text.afterLead?_eq_some_iff

/-- A line that begins with a keyword begins with no other. -/
theorem begins_lead (k k' : Keyword) (rest : String) :
    k.begins (k'.lead ++ rest) = decide (k = k') := by
  rw [Bool.eq_iff_iff, begins_iff, decide_eq_true_iff]
  constructor
  · rintro ⟨rest', h⟩
    exact (lead_append_inj k' k h).1.symm
  · rintro rfl
    exact ⟨rest, rfl⟩

end Keyword

namespace Block

/-- A line opens a directive if it begins with a keyword, but for that of an expected text. -/
theorem opens_iff {line : String} : Opens line ↔ ∃ k ≠ Keyword.equal, k.begins line := by
  simp only [Keyword.begins_iff]
  constructor
  · rintro ⟨rest, h | h | h | h⟩
    · exact ⟨.component, by decide, rest, h⟩
    · exact ⟨.check, by decide, rest, h⟩
    · exact ⟨.external, by decide, rest, h⟩
    · exact ⟨.override, by decide, rest, h⟩
  · rintro ⟨k, hk, rest, h⟩
    cases k with
    | component => exact ⟨rest, .inl h⟩
    | check => exact ⟨rest, .inr (.inl h)⟩
    | equal => exact absurd rfl hk
    | external => exact ⟨rest, .inr (.inr (.inl h))⟩
    | override => exact ⟨rest, .inr (.inr (.inr h))⟩

/-! ### The balance -/

/-- The line that an override covers: its second, whatever it says. -/
def covered? : Block → Option String
  | override _ name target rest => some (name ++ "/" ++ target ++ ":" ++ rest)
  | _ => none

/-- **The balance of a block.** A line of it that begins with a keyword declares the directive of
the block, or it is covered. -/
theorem balance {b : Block} (hb : b.Valid) {k : Keyword} (hk : k ≠ .equal) :
    b.lines.countP k.begins =
      b.directive?.toList.countP k.declares + b.covered?.toList.countP k.begins := by
  cases b with
  | component path =>
      have hline : k.begins ("include " ++ path) = decide (k = .component) :=
        k.begins_lead .component path
      cases k <;> simp [lines, directive?, covered?, hline, Keyword.declares]
  | check command equals =>
      have hline : k.begins ("# check " ++ command) = decide (k = .check) :=
        k.begins_lead .check command
      have hsecond : k.begins ("# equal " ++ equals) = false :=
        (k.begins_lead .equal equals).trans (decide_eq_false hk)
      cases k <;> simp [lines, directive?, covered?, hline, hsecond, Keyword.declares]
  | external label path =>
      -- Both lines count, each for its own keyword.
      have hline : k.begins ("# extern " ++ label) = decide (k = .external) :=
        k.begins_lead .external label
      have hsecond : k.begins ("include " ++ path) = decide (k = .component) :=
        k.begins_lead .component path
      cases k <;> simp [lines, directive?, covered?, hline, hsecond, Keyword.declares]
  | override remark name target rest =>
      have hline : k.begins ("# override" ++ remark) = decide (k = .override) :=
        k.begins_lead .override remark
      cases k <;> simp [lines, directive?, covered?, hline, Keyword.declares, Nat.add_comm]
  | aside line =>
      have hline : k.begins line = false :=
        Bool.eq_false_iff.mpr fun hbegins => hb (opens_iff.mpr ⟨k, hk, hbegins⟩)
      simp [lines, directive?, covered?, hline]

/-- The balance of a sequence of blocks. -/
theorem balance_all {blocks : List Block} (hblocks : ∀ b ∈ blocks, b.Valid) {k : Keyword}
    (hk : k ≠ .equal) :
    (blocks.flatMap lines).countP k.begins =
      (blocks.filterMap directive?).countP k.declares +
        (blocks.filterMap covered?).countP k.begins := by
  induction blocks with
  | nil => rfl
  | cons b blocks ih =>
      obtain ⟨hb, hblocks⟩ := List.forall_mem_cons.mp hblocks
      have hdirectives : (b :: blocks).filterMap directive? =
          b.directive?.toList ++ blocks.filterMap directive? := by
        rw [List.filterMap_cons]
        cases b.directive? <;> rfl
      have hcovered : (b :: blocks).filterMap covered? =
          b.covered?.toList ++ blocks.filterMap covered? := by
        rw [List.filterMap_cons]
        cases b.covered? <;> rfl
      rw [hdirectives, hcovered, List.flatMap_cons, List.countP_append, List.countP_append,
        List.countP_append, balance hb hk, ih hblocks]
      omega

end Block

/-- **What a root file declares is read, unless an override covers it.** A source that is accepted
is a text whose lines that are not blank are those of a sequence of blocks, and the directives are
those of the blocks.

* In every block, a line that begins with a keyword declares the directive of the block, or it is
  covered.
* So the lines that begin with a keyword are, in the whole, as many as the directives of its kind
  and the covered lines that begin with it.
* And the directives of every kind are as many as the lines that begin with its keyword, exactly if
  no covered line opens a directive. -/
theorem declarations_balance {source : Text.Bytes} {directives : List Directive}
    (h : readDirectives source = .ok directives) :
    ∃ text blocks, source = Text.Utf8.encode text ∧ Decomposes text blocks ∧
      blocks.filterMap Block.directive? = directives ∧
      (∀ b ∈ blocks, ∀ k ≠ Keyword.equal, b.lines.countP k.begins =
        b.directive?.toList.countP k.declares + b.covered?.toList.countP k.begins) ∧
      (∀ k ≠ Keyword.equal, (Text.spoken text).countP k.begins =
        directives.countP k.declares + (blocks.filterMap Block.covered?).countP k.begins) ∧
      ((∀ k ≠ Keyword.equal,
          (Text.spoken text).countP k.begins = directives.countP k.declares) ↔
        ∀ line ∈ blocks.filterMap Block.covered?, ¬Block.Opens line) := by
  obtain ⟨text, rfl⟩ := exists_text_of_read h
  obtain ⟨blocks, hblocks, rfl⟩ := exists_decomposes_of_read h
  have hbalance {k : Keyword} (hk : k ≠ .equal) := Block.balance_all hblocks.valid hk
  rw [(Decomposes.iff_spoken.mp hblocks).2] at hbalance
  refine ⟨text, blocks, rfl, hblocks, rfl, fun b hb k hk => Block.balance (hblocks.valid b hb) hk,
    fun k hk => hbalance hk, ?_⟩
  constructor
  · intro hequal line hline hopens
    obtain ⟨k, hk, hbegins⟩ := Block.opens_iff.mp hopens
    have hcovered : (blocks.filterMap Block.covered?).countP k.begins = 0 := by
      have := hequal k hk
      have := hbalance hk
      omega
    exact List.countP_eq_zero.mp hcovered line hline hbegins
  · intro hnone k hk
    have hcovered : (blocks.filterMap Block.covered?).countP k.begins = 0 :=
      List.countP_eq_zero.mpr fun line hline hbegins =>
        hnone line hline (Block.opens_iff.mpr ⟨k, hk, hbegins⟩)
    rw [hbalance hk, hcovered, Nat.add_zero]

/-- A labelled component, and an override that covers the line of another. -/
theorem declarations_balance_covered_include :
    let source := Text.Utf8.encode
      "# extern lib\n\ninclude lib/a.mk\n# override\ninclude api/env: b.mk\n"
    let directives : List Directive :=
      [.component ⟨⟨"lib/a.mk"⟩, some "lib"⟩, .override ⟨"include api", "env"⟩]
    readDirectives source = .ok directives ∧
      ∃ text blocks, source = Text.Utf8.encode text ∧ Decomposes text blocks ∧
        (Text.spoken text).countP Keyword.external.begins = 1 +
          (blocks.filterMap Block.covered?).countP Keyword.external.begins ∧
        (Text.spoken text).countP Keyword.component.begins = 1 +
          (blocks.filterMap Block.covered?).countP Keyword.component.begins := by
  intro source directives
  have hread : readDirectives source = .ok directives := rfl
  obtain ⟨text, blocks, hsource, hblocks, -, -, hbalance, -⟩ := declarations_balance hread
  exact ⟨hread, text, blocks, hsource, hblocks, hbalance .external (by decide),
    hbalance .component (by decide)⟩

/-- A check that is lost: its first line is covered, and its second stands aside. -/
theorem check_covered_by_override :
    let text := "# override\n# check api/ready:\n# equal yes\n"
    let directives : List Directive := [.override ⟨"# check api", "ready"⟩]
    readDirectives (Text.Utf8.encode text) = .ok directives ∧
      (Text.spoken text).countP Keyword.check.begins = 1 ∧
      directives.countP Keyword.check.declares = 0 :=
  ⟨rfl, by decide, by decide⟩

end Ensemble
