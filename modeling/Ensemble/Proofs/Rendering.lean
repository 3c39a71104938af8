import Ensemble.Proofs.Continuation
import Ensemble.Proofs.Encoding
import Ensemble.Proofs.Grammar

/-!
# Ensemble.Proofs.Rendering

**Writing directives and reading them back.** Each directive has a form of one line or two, and a
list of directives is written form by form, every line ended by a carriage return and a line feed.
The main result, `readDirectives_image`, says that what can be read at all are the lists whose texts
are of one line each and whose overrides give names (`Directive.Writable`), and that such a list is
read back, word for word, from its plain rendering and from everything that differs from it by blank
lines anywhere and by lines between the directives that open none (`Spells`).

The line ends matter: of a line that is ended by a line feed alone, a carriage return at its end
would be lost. Otherwise the argument is that of the grammar. A text that spells directives is put
together from pieces whose lines are ended, and each piece is a block of the grammar or none
(`Decomposes.append`).
-/

namespace Ensemble

/-! ### Lines and their ends -/

namespace Text

/-- The two ways to end a line. -/
def IsEnding (ending : String) : Prop :=
  ending = "\n" ∨ ending = "\r\n"

/-- Some blank lines, each of them ended: what they are made of is blank, the ends too. -/
def IsGap (gap : String) : Prop :=
  isAllBlank gap ∧ Ended '\n' gap.toList

theorem ended_append_ending {line ending : String} (h : IsEnding ending) :
    Ended '\n' (line ++ ending).toList := by
  rcases h with rfl | rfl
  · exact .inr ⟨line.toList, by simp⟩
  · exact .inr ⟨line.toList ++ ['\r'], by simp⟩

theorem ended_append {s t : String} (hs : Ended '\n' s.toList) (ht : Ended '\n' t.toList) :
    Ended '\n' (s ++ t).toList := by
  rw [String.toList_append]
  exact hs.append ht

/-- The lines of a text whose own last line is ended stand before those of what follows it. -/
theorem lines_append {s : String} (h : Ended '\n' s.toList) (t : String) :
    lines (s ++ t) = lines s ++ lines t := by
  rw [lines, String.toList_append, cutAfter_append h, List.map_append]
  rfl

/-- A line loses at most its end. -/
theorem withoutTerminator_isPrefix (line : List Char) : withoutTerminator line <+: line := by
  unfold withoutTerminator
  split <;> rename_i h
  · exact ⟨['\r', '\n'], by rw [← List.reverse_inj, h]; simp⟩
  · exact ⟨['\n'], by rw [← List.reverse_inj, h]; simp⟩
  · exact List.prefix_rfl

/-- What is ended by a line feed loses the line feed, and a carriage return before it. -/
theorem withoutTerminator_append_lf (line : List Char) :
    withoutTerminator (line ++ ['\n']) <+: line := by
  have hrev : (line ++ ['\n']).reverse = '\n' :: line.reverse := by simp
  unfold withoutTerminator
  rw [hrev]
  split <;> rename_i h
  · exact ⟨['\r'], by rw [← List.reverse_inj, (List.cons.inj h).2]; simp⟩
  · exact ⟨[], by rw [← (List.cons.inj h).2]; simp⟩
  · exact (h line.reverse rfl).elim

@[simp] theorem withoutTerminator_append_crlf (line : List Char) :
    withoutTerminator (line ++ ['\r', '\n']) = line := by
  simp [withoutTerminator]

theorem withoutTerminator_of_not_mem {line : List Char} (h : '\n' ∉ line) :
    withoutTerminator line = line := by
  unfold withoutTerminator
  split <;> rename_i heq
  · exact absurd (List.mem_reverse.mp (heq ▸ List.mem_cons_self)) h
  · exact absurd (List.mem_reverse.mp (heq ▸ List.mem_cons_self)) h
  · rfl

/-- A line that is ended is one line. -/
theorem lines_ended {line ending : String} (h : '\n' ∉ line.toList) (hending : IsEnding ending) :
    lines (line ++ ending) =
      [.ofList (withoutTerminator (line.toList ++ ending.toList))] := by
  obtain ⟨front, hfront, heq⟩ :
      ∃ front, '\n' ∉ front ∧ line.toList ++ ending.toList = front ++ ['\n'] := by
    rcases hending with rfl | rfl
    · exact ⟨line.toList, h, rfl⟩
    · exact ⟨line.toList ++ ['\r'], by simp [h], by simp⟩
  rw [lines, String.toList_append, heq, cutAfter_append_cons hfront]
  rfl

theorem lines_crlf {line : String} (h : '\n' ∉ line.toList) : lines (line ++ "\r\n") = [line] := by
  have hstripped : withoutTerminator (line.toList ++ "\r\n".toList) = line.toList :=
    withoutTerminator_append_crlf line.toList
  rw [lines_ended h (.inr rfl), hstripped, String.ofList_toList]

theorem lines_of_not_mem {line : String} (h : '\n' ∉ line.toList) :
    lines line = if line = "" then [] else [line] := by
  rw [lines, cutAfter_of_not_mem h]
  by_cases hline : line = ""
  · simp [hline]
  · simp [hline, withoutTerminator_of_not_mem h]

/-- Of one line, ended or not, nothing but an end of it is lost. -/
theorem isPrefix_of_mem_lines_ended {line ending part : String} (h : '\n' ∉ line.toList)
    (hending : IsEnding ending) (hpart : part ∈ lines (line ++ ending)) :
    part.toList <+: line.toList := by
  rw [lines_ended h hending] at hpart
  obtain rfl := List.mem_singleton.mp hpart
  rw [String.toList_ofList]
  rcases hending with rfl | rfl
  · exact withoutTerminator_append_lf line.toList
  · have hline : withoutTerminator (line.toList ++ "\r\n".toList) = line.toList :=
      withoutTerminator_append_crlf line.toList
    exact ⟨[], by rw [hline, List.append_nil]⟩

theorem isPrefix_of_mem_lines {line part : String} (h : '\n' ∉ line.toList)
    (hpart : part ∈ lines line) : part.toList <+: line.toList := by
  rw [lines, cutAfter_of_not_mem h] at hpart
  split at hpart
  · cases hpart
  · obtain rfl := List.mem_singleton.mp hpart
    rw [String.toList_ofList]
    exact withoutTerminator_isPrefix line.toList

/-- What holds of every last line, and of a line with a line feed behind it and something of which
it holds, holds of every text. -/
theorem induction_on_lines {motive : String → Prop}
    (last : ∀ line, '\n' ∉ line.toList → motive line)
    (step : ∀ line rest, '\n' ∉ line.toList → motive rest → motive (line ++ "\n" ++ rest))
    (text : String) : motive text := by
  suffices h : ∀ piece pieces, (∀ p ∈ piece :: pieces, '\n' ∉ p) →
      motive (.ofList (joinBetween '\n' (piece, pieces))) by
    have hpieces : ∀ p ∈ (cutBetween '\n' text.toList).1 :: (cutBetween '\n' text.toList).2,
        '\n' ∉ p := fun p hp => not_mem_of_mem_cutBetween (List.mem_cons.mp hp)
    have htext := h _ _ hpieces
    rwa [joinBetween_cutBetween, String.ofList_toList] at htext
  intro piece pieces
  induction pieces generalizing piece with
  | nil =>
      intro h
      refine last _ ?_
      simpa [joinBetween] using h
  | cons next pieces ih =>
      intro h
      obtain ⟨hpiece, hpieces⟩ := List.forall_mem_cons.mp h
      have hjoin : String.ofList (joinBetween '\n' (piece, next :: pieces)) =
          .ofList piece ++ "\n" ++ .ofList (joinBetween '\n' (next, pieces)) := by
        apply String.toList_injective
        simp [joinBetween]
      rw [hjoin]
      exact step _ _ (by simpa using hpiece) (ih next hpieces)

/-- A piece of a text is a line, ended or not. -/
theorem exists_of_mem_cutAfter [DecidableEq α] {sep : α} {xs piece : List α}
    (h : piece ∈ cutAfter sep xs) :
    ∃ front, sep ∉ front ∧ (piece = front ∨ piece = front ++ [sep]) := by
  induction xs generalizing piece with
  | nil => cases h
  | cons x xs ih =>
      unfold cutAfter at h
      split at h
      · rename_i hx
        rcases List.mem_cons.mp h with rfl | h
        · exact ⟨[], List.not_mem_nil, .inr (by rw [hx]; rfl)⟩
        · exact ih h
      · rename_i hx
        have hx : ¬sep = x := fun heq => hx heq.symm
        split at h <;> rename_i hcut
        · obtain rfl := List.mem_singleton.mp h
          exact ⟨[x], by simpa using hx, .inl rfl⟩
        · rcases List.mem_cons.mp h with rfl | h
          · obtain ⟨front, hfront, hpiece⟩ := ih (hcut ▸ List.mem_cons_self)
            refine ⟨x :: front, by simp [hx, hfront], ?_⟩
            rcases hpiece with rfl | rfl
            · exact .inl rfl
            · exact .inr rfl
          · exact ih (hcut ▸ List.mem_cons_of_mem _ h)

/-- No line holds a line feed. -/
theorem not_mem_of_mem_lines {s line : String} (h : line ∈ lines s) : '\n' ∉ line.toList := by
  obtain ⟨piece, hpiece, rfl⟩ := List.mem_map.mp h
  obtain ⟨front, hfront, rfl | rfl⟩ := exists_of_mem_cutAfter hpiece
  · rwa [String.toList_ofList, withoutTerminator_of_not_mem hfront]
  · rw [String.toList_ofList]
    exact fun hmem => hfront ((withoutTerminator_append_lf front).subset hmem)

/-- The characters of a line are some of the text's. -/
theorem subset_of_mem_lines {s line : String} (h : line ∈ lines s) : line.toList ⊆ s.toList := by
  obtain ⟨piece, hpiece, rfl⟩ := List.mem_map.mp h
  intro c hc
  rw [String.toList_ofList] at hc
  rw [← flatten_cutAfter '\n' s.toList]
  exact List.mem_flatten_of_mem hpiece ((withoutTerminator_isPrefix piece).subset hc)

/-- The lines of a text that are not blank. -/
def spoken (s : String) : List String :=
  (lines s).filter (!isAllBlank ·)

theorem map_fst_writtenLines (s : String) : (writtenLines s).map (·.1) = spoken s := by
  have hlines : ((lines s).zipIdx 1).map (·.1) = lines s := List.zipIdx_map_fst 1 (lines s)
  conv_rhs => rw [spoken, ← hlines, List.filter_map]
  rfl

theorem spoken_append {s : String} (h : Ended '\n' s.toList) (t : String) :
    spoken (s ++ t) = spoken s ++ spoken t := by
  rw [spoken, lines_append h, List.filter_append]
  rfl

theorem spoken_gap {gap : String} (h : IsGap gap) : spoken gap = [] := by
  refine List.filter_eq_nil_iff.mpr fun line hline => ?_
  have hblank : isAllBlank line = true :=
    List.all_eq_true.mpr fun c hc => List.all_eq_true.mp h.1 c (subset_of_mem_lines hline hc)
  simp [hblank]

theorem spoken_crlf {line : String} (h : '\n' ∉ line.toList) (hblank : isAllBlank line = false) :
    spoken (line ++ "\r\n") = [line] := by
  rw [spoken, lines_crlf h, List.filter_cons_of_pos (by simp [hblank]), List.filter_nil]

end Text

/-! ### The form of a directive -/

namespace Directive

/-- The first line of a directive. -/
def firstLine : Directive → String
  | .component ⟨path, none⟩ => "include " ++ path.text
  | .component ⟨_, some label⟩ => "# extern " ++ label
  | .check c => "# check " ++ c.command
  | .override _ => "# override"

/-- The second line of a directive of two. -/
def secondLine? : Directive → Option String
  | .component ⟨_, none⟩ => none
  | .component ⟨path, some _⟩ => some ("include " ++ path.text)
  | .check c => some ("# equal " ++ c.equals)
  | .override o => some (o.component ++ "/" ++ o.target ++ ":")

/-- A directive in its form, with a gap between its lines if it has two. -/
def spelling (gap : String) (d : Directive) : String :=
  d.firstLine ++ "\r\n" ++
    match d.secondLine? with
    | none => ""
    | some second => gap ++ (second ++ "\r\n")

/-- Directives in their forms, one behind the other. -/
def render : List Directive → String
  | [] => ""
  | d :: ds => d.spelling "" ++ render ds

/-- The texts of the directive are of one line each, and an override gives names. -/
def Writable : Directive → Prop
  | .component i => '\n' ∉ i.path.text.toList ∧ ∀ label ∈ i.label, '\n' ∉ label.toList
  | .check c => '\n' ∉ c.command.toList ∧ '\n' ∉ c.equals.toList
  | .override o => ('\n' ∉ o.component.toList ∧ '\n' ∉ o.target.toList) ∧
      Block.IsName o.component ∧ Block.IsName o.target

/-- The block that is a directive in its form. -/
def block : Directive → Block
  | .component ⟨path, none⟩ => .component path.text
  | .component ⟨path, some label⟩ => .external label path.text
  | .check c => .check c.command c.equals
  | .override o => .override "" o.component o.target ""

theorem directive?_block (d : Directive) : d.block.directive? = some d := by
  obtain ⟨⟨path⟩, _ | label⟩ | c | o := d <;> rfl

theorem lines_block (d : Directive) : d.block.lines = d.firstLine :: d.secondLine?.toList := by
  obtain ⟨⟨path⟩, _ | label⟩ | c | o := d <;>
    simp [block, Block.lines, firstLine, secondLine?]

theorem ended_spelling (d : Directive) {gap : String} (hgap : Text.IsGap gap) :
    Text.Ended '\n' (d.spelling gap).toList := by
  have hfirst : Text.Ended '\n' (d.firstLine ++ "\r\n").toList :=
    Text.ended_append_ending (.inr rfl)
  refine Text.ended_append hfirst ?_
  cases d.secondLine? with
  | none => exact .inl rfl
  | some second => exact Text.ended_append hgap.2 (Text.ended_append_ending (.inr rfl))

theorem Writable.valid_block {d : Directive} (h : d.Writable) : d.block.Valid := by
  obtain ⟨⟨path⟩, _ | label⟩ | c | o := d
  case override => exact h.2
  all_goals trivial

theorem not_mem_of_mem_lines_block {d : Directive} (h : d.Writable) {line : String}
    (hline : line ∈ d.block.lines) : '\n' ∉ line.toList := by
  obtain ⟨⟨path⟩, _ | label⟩ | c | o := d <;>
    simp only [block, Block.lines, List.mem_cons, List.not_mem_nil, or_false] at hline <;>
    simp only [Writable] at h
  case component.none => simp [hline, h]
  case component.some => rcases hline with rfl | rfl <;> simp [h]
  case check => rcases hline with rfl | rfl <;> simp [h]
  case override => rcases hline with rfl | rfl <;> simp [h]

end Directive

/-- A line with a character that is not blank is not blank. -/
theorem Text.isAllBlank_eq_false {s : String} {c : Char} (hmem : c ∈ s.toList)
    (hc : isBlank c = false) : isAllBlank s = false := by
  rw [isAllBlank, List.all_eq_false]
  exact ⟨c, hmem, by simp [hc]⟩

/-- No line of a directive is blank. -/
theorem Block.not_blank_of_directive {b : Block} {d : Directive} (hb : b.directive? = some d)
    {line : String} (hline : line ∈ b.lines) : Text.isAllBlank line = false := by
  cases b <;> simp only [lines, List.mem_cons, List.not_mem_nil, or_false] at hline
  case component path =>
    subst hline
    exact Text.isAllBlank_eq_false (c := 'i') (by simp) (by decide)
  case check command equals =>
    rcases hline with rfl | rfl <;>
      exact Text.isAllBlank_eq_false (c := '#') (by simp) (by decide)
  case external label path =>
    rcases hline with rfl | rfl
    · exact Text.isAllBlank_eq_false (c := '#') (by simp) (by decide)
    · exact Text.isAllBlank_eq_false (c := 'i') (by simp) (by decide)
  case override remark name target rest =>
    rcases hline with rfl | rfl
    · exact Text.isAllBlank_eq_false (c := '#') (by simp) (by decide)
    · exact Text.isAllBlank_eq_false (c := '/') (by simp) (by decide)
  case aside line' => cases hb

/-! ### Texts that spell directives -/

/-- The text consists of the directives in their forms, of blank lines anywhere, and of lines between
the directives that open none. -/
inductive Spells : List Directive → String → Prop
  | nil : Spells [] ""
  | directive {d ds gap text} (hgap : Text.IsGap gap) (h : Spells ds text) :
    Spells (d :: ds) (d.spelling gap ++ text)
  | blank {ds gap text} (hgap : Text.IsGap gap) (h : Spells ds text) : Spells ds (gap ++ text)
  | aside {ds line ending text} (hline : '\n' ∉ line.toList) (haside : ¬Block.Opens line)
    (hending : Text.IsEnding ending) (h : Spells ds text) : Spells ds (line ++ ending ++ text)
  /-- The last line need not be ended. -/
  | last {line} (hline : '\n' ∉ line.toList) (haside : ¬Block.Opens line) : Spells [] line

theorem Text.isGap_empty : Text.IsGap "" :=
  ⟨isAllBlank_empty, .inl rfl⟩

theorem spells_render (ds : List Directive) : Spells ds (Directive.render ds) := by
  induction ds with
  | nil => exact .nil
  | cons d ds ih => exact .directive Text.isGap_empty ih

namespace Decomposes

theorem iff_spoken {s : String} {blocks : List Block} :
    Decomposes s blocks ↔ (∀ b ∈ blocks, b.Valid) ∧ blocks.flatMap Block.lines = Text.spoken s := by
  rw [← Text.map_fst_writtenLines]
  exact ⟨fun h => ⟨h.valid, h.lines⟩, fun h => ⟨h.1, h.2⟩⟩

/-- A text whose last line is ended decomposes apart from what follows it. -/
theorem append {s t : String} {blocks blocks' : List Block} (hs : Text.Ended '\n' s.toList)
    (h : Decomposes s blocks) (h' : Decomposes t blocks') :
    Decomposes (s ++ t) (blocks ++ blocks') := by
  rw [iff_spoken] at *
  refine ⟨List.forall_mem_append.mpr ⟨h.1, h'.1⟩, ?_⟩
  rw [List.flatMap_append, h.2, h'.2, Text.spoken_append hs]

theorem gap {gap : String} (h : Text.IsGap gap) : Decomposes gap [] :=
  iff_spoken.mpr ⟨by simp, (Text.spoken_gap h).symm⟩

/-- A text none of whose lines opens a directive declares nothing. -/
theorem asides {s : String} (h : ∀ line ∈ Text.lines s, ¬Block.Opens line) :
    Decomposes s ((Text.spoken s).map Block.aside) := by
  refine iff_spoken.mpr ⟨fun b hb => ?_, ?_⟩
  · obtain ⟨line, hline, rfl⟩ := List.mem_map.mp hb
    exact h line (List.mem_of_mem_filter hline)
  · rw [List.flatMap_map]
    exact List.flatMap_singleton' _

/-- A directive in its form is its block. -/
theorem spelling {d : Directive} (hd : d.Writable) {gap : String} (hgap : Text.IsGap gap) :
    Decomposes (d.spelling gap) [d.block] := by
  have hline {line : String} (hmem : line ∈ d.block.lines) : Text.spoken (line ++ "\r\n") = [line] :=
    Text.spoken_crlf (Directive.not_mem_of_mem_lines_block hd hmem)
      (Block.not_blank_of_directive d.directive?_block hmem)
  rw [Directive.lines_block] at hline
  refine iff_spoken.mpr ⟨by simpa using hd.valid_block, ?_⟩
  rw [List.flatMap_singleton, Directive.lines_block, Directive.spelling,
    Text.spoken_append (Text.ended_append_ending (.inr rfl)), hline List.mem_cons_self]
  cases hsecond : d.secondLine? with
  | none => rfl
  | some second =>
      have hsecond' : second ∈ d.firstLine :: d.secondLine?.toList := by simp [hsecond]
      dsimp only
      rw [Text.spoken_append hgap.2, Text.spoken_gap hgap, hline hsecond']
      rfl

end Decomposes

/-- What begins a directive in a part of a line begins it in the line. -/
theorem Block.Opens.of_prefix {line part : String} (h : Opens part)
    (hpart : part.toList <+: line.toList) : Opens line := by
  obtain ⟨behind, hbehind⟩ := hpart
  obtain rfl : line = part ++ .ofList behind := by
    apply String.toList_injective
    simp [hbehind]
  obtain ⟨rest, h⟩ := h
  refine ⟨rest ++ .ofList behind, ?_⟩
  simpa only [← String.append_assoc, String.append_left_inj] using h

theorem Spells.decomposes {ds : List Directive} {text : String} (h : Spells ds text)
    (hds : ∀ d ∈ ds, d.Writable) :
    ∃ blocks, Decomposes text blocks ∧ blocks.filterMap Block.directive? = ds := by
  have hasides (lines : List String) : (lines.map Block.aside).filterMap Block.directive? = [] := by
    simp [List.filterMap_map, Block.directive?, Function.comp_def]
  induction h with
  | nil => exact ⟨[], Decomposes.gap Text.isGap_empty, rfl⟩
  | @directive d ds gap text hgap h ih =>
      obtain ⟨hd, hds⟩ := List.forall_mem_cons.mp hds
      obtain ⟨blocks, hblocks, hdecl⟩ := ih hds
      refine ⟨d.block :: blocks, .append ?_ (.spelling hd hgap) hblocks, ?_⟩
      · exact Directive.ended_spelling d hgap
      · rw [List.filterMap_cons, Directive.directive?_block, hdecl]
  | blank hgap h ih =>
      obtain ⟨blocks, hblocks, hdecl⟩ := ih hds
      exact ⟨blocks, .append hgap.2 (.gap hgap) hblocks, hdecl⟩
  | @aside ds line ending text hline haside hending h ih =>
      obtain ⟨blocks, hblocks, hdecl⟩ := ih hds
      refine ⟨_, .append (Text.ended_append_ending hending) (.asides fun line' hline' hopens => ?_)
        hblocks, ?_⟩
      · exact haside (hopens.of_prefix (Text.isPrefix_of_mem_lines_ended hline hending hline'))
      · rw [List.filterMap_append, hasides, hdecl, List.nil_append]
  | @last line hline haside =>
      refine ⟨_, .asides fun line' hline' hopens => ?_, hasides _⟩
      exact haside (hopens.of_prefix (Text.isPrefix_of_mem_lines hline hline'))

/-- A text that spells directives is read as these. -/
theorem Spells.read {ds : List Directive} {text : String} (h : Spells ds text)
    (hds : ∀ d ∈ ds, d.Writable) : readDirectives (Text.Utf8.encode text) = .ok ds := by
  obtain ⟨blocks, hblocks, rfl⟩ := h.decomposes hds
  rw [readDirectives, sourceLines_encode]
  exact readLines_blocks hblocks.valid hblocks.lines

/-! ### What can be read -/

/-- A block of single lines declares a directive that can be written. -/
theorem Block.writable_of_directive {b : Block} (hb : b.Valid) {d : Directive}
    (hd : b.directive? = some d) (hlines : ∀ line ∈ b.lines, '\n' ∉ line.toList) : d.Writable := by
  cases b <;> cases hd <;> simp only [lines, List.forall_mem_cons] at hlines
  case component path => simpa [Directive.Writable] using hlines
  case check command equals => simpa [Directive.Writable] using hlines
  case external label path => simpa [Directive.Writable, and_comm] using hlines
  case override remark name target rest =>
    have hsecond := hlines.2.1
    simp only [String.toList_append, List.mem_append, not_or] at hsecond
    exact ⟨⟨hsecond.1.1.1.1, hsecond.1.1.2⟩, hb⟩

/-- What is read from a text is what its blocks declare. -/
theorem exists_decomposes_of_read {text : String} {ds : List Directive}
    (h : readDirectives (Text.Utf8.encode text) = .ok ds) :
    ∃ blocks, Decomposes text blocks ∧ blocks.filterMap Block.directive? = ds := by
  rw [readDirectives, sourceLines_encode] at h
  rcases exists_blocks_or_broken (Text.writtenLines text) with
    ⟨blocks, hvalid, hlines⟩ | ⟨number, pair, herror⟩
  · rw [readLines_blocks hvalid hlines] at h
    exact ⟨blocks, ⟨hvalid, hlines⟩, Except.ok.inj h⟩
  · rw [herror] at h
    cases h

/-- What is read from a text can be written. -/
theorem writable_of_read {text : String} {ds : List Directive}
    (h : readDirectives (Text.Utf8.encode text) = .ok ds) : ∀ d ∈ ds, d.Writable := by
  obtain ⟨blocks, hblocks, rfl⟩ := exists_decomposes_of_read h
  intro d hd
  obtain ⟨b, hb, hdirective⟩ := List.mem_filterMap.mp hd
  refine Block.writable_of_directive (hblocks.valid b hb) hdirective fun line hline => ?_
  have hmem : line ∈ Text.spoken text := by
    rw [← Text.map_fst_writtenLines, ← hblocks.lines]
    exact List.mem_flatMap_of_mem hb hline
  exact Text.not_mem_of_mem_lines (List.mem_of_mem_filter hmem)

/-- All lines of a source that is accepted could be read. -/
theorem garbled_not_mem_of_readLines {xs : List SourceLine} {ds : List Directive}
    (h : readLines xs = .ok ds) : .garbled ∉ xs := by
  fun_induction readLines xs generalizing ds with
  | case1 => exact List.not_mem_nil
  | case2 rest => cases h
  | case3 number line rest hsentence ih => simpa using ih h
  | case4 number line rest d hsentence ih =>
      obtain ⟨others, hothers, -⟩ := exists_of_cons_map_eq_ok h
      simpa using ih hothers
  | case5 number line opener opened hsentence => cases h
  | case6 number line opener opened hsentence rest => cases h
  | case7 number line opener opened hsentence second got rest d hcomplete ih =>
      obtain ⟨others, hothers, -⟩ := exists_of_cons_map_eq_ok h
      simpa using ih hothers
  | case8 number line opener opened hsentence second got rest hcomplete => cases h

theorem exists_encode_of_numberLines {number : Nat} {pieces : List Text.Bytes}
    (h : .garbled ∉ numberLines number pieces) :
    ∀ piece ∈ pieces, ∃ s, piece = Text.Utf8.encode s := by
  induction pieces generalizing number with
  | nil => simp
  | cons piece pieces ih =>
      rw [numberLines, List.mem_append, not_or] at h
      refine List.forall_mem_cons.mpr ⟨?_, ih h.2⟩
      cases hdecode : Text.Utf8.decode? piece with
      | none => simp [SourceLine.ofBytes?, hdecode] at h
      | some s => exact ⟨s, Text.Utf8.decode?_eq_some_iff.mp hdecode⟩

/-- A source that is accepted is a text. -/
theorem exists_text_of_read {source : Text.Bytes} {ds : List Directive}
    (h : readDirectives source = .ok ds) : ∃ text, source = Text.Utf8.encode text := by
  rw [← Text.flatten_cutAfter Text.lineFeed source]
  exact Text.Utf8.exists_encode_flatten
    (exists_encode_of_numberLines (garbled_not_mem_of_readLines h))

/-! ### The image of the reader -/

/-- **Directives are read as they were written.**

* A list of directives can be read from some text exactly when all its texts are of one line each
  and its overrides give names.
* Then it is read from every text that spells it, whatever blank lines and lines aside there are.
* Its plain rendering is such a text.
* So whatever has been read from a source is read again from its rendering. -/
theorem readDirectives_image (ds : List Directive) :
    ((∃ text, readDirectives (Text.Utf8.encode text) = .ok ds) ↔ ∀ d ∈ ds, d.Writable) ∧
    ((∀ d ∈ ds, d.Writable) →
      ∀ text, Spells ds text → readDirectives (Text.Utf8.encode text) = .ok ds) ∧
    Spells ds (Directive.render ds) ∧
    ∀ source, readDirectives source = .ok ds →
      readDirectives (Text.Utf8.encode (Directive.render ds)) = .ok ds := by
  refine ⟨⟨fun ⟨text, htext⟩ => writable_of_read htext, fun hds => ?_⟩,
    fun hds text htext => htext.read hds, spells_render ds, fun source hsource => ?_⟩
  · exact ⟨Directive.render ds, (spells_render ds).read hds⟩
  · obtain ⟨text, rfl⟩ := exists_text_of_read hsource
    exact (spells_render ds).read (writable_of_read hsource)

/-- Texts with blanks and carriage returns at their ends, a label that looks like an include, and an
override whose names hold blanks; among them a blank line within a pair, and a stray expectation. -/
theorem readDirectives_image_odd_texts :
    let ds : List Directive :=
      [.component ⟨⟨" a\r"⟩, none⟩, .check ⟨"", "ok \r"⟩, .component ⟨⟨"b:/"⟩, some "include c"⟩,
        .override ⟨"include d", " env"⟩]
    let text := "include  a\r\r\n# equal \n# check \r\n\t\n# equal ok \r\r\n" ++
      "# extern include c\r\ninclude b:/\r\n# override\r\ninclude d/ env:\r\n"
    (∀ d ∈ ds, d.Writable) ∧ Spells ds text ∧
      readDirectives (Text.Utf8.encode text) = .ok ds := by
  intro ds text
  have hds : ∀ d ∈ ds, d.Writable := by
    simp [ds, Directive.Writable, Block.IsName]
  have haside : ¬Block.Opens "# equal " := by
    rintro ⟨rest, h | h | h | h⟩
    all_goals simpa using congrArg String.toList h
  have hgap : Text.IsGap "\t\n" := ⟨by decide, .inr ⟨['\t'], by decide⟩⟩
  have hspells : Spells ds text :=
    .directive Text.isGap_empty (.aside (by decide) haside (.inl rfl)
      (.directive hgap (.directive Text.isGap_empty (.directive Text.isGap_empty .nil))))
  exact ⟨hds, hspells, (readDirectives_image ds).2.1 hds text hspells⟩

end Ensemble
