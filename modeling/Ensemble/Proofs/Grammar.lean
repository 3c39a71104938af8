import Ensemble.Directive

/-!
# Ensemble.Proofs.Grammar

**The grammar of the root file.** The lines that are not blank are a sequence of `Block`s: a
directive of one line, a directive of two, or a line that stands aside. The main result,
`readDirectives_grammar`, says that the reader accepts a text exactly when its lines are such a
sequence, that the sequence is then the only one, and that the directives are those of its blocks,
word for word.

The reader looks at one line and, for three kinds of directive, at the next. So the proof follows
the blocks: what the reader does on the lines of one block and anything behind them
(`readLines_block`) says that every sequence of blocks is read, and taking apart an accepted list of
lines from the front gives its blocks back.
-/

namespace Ensemble

/-! ### The lines of a text -/

namespace Text

/-- The lines of a text that are not blank, without their terminators, each with its number among
all lines. -/
def writtenLines (s : String) : List (String × Nat) :=
  ((lines s).zipIdx 1).filter fun line => !isAllBlank line.1

end Text

/-- A line that could be read. -/
def SourceLine.ofLine (line : String × Nat) : SourceLine :=
  .text line.2 line.1

theorem numberLines_encode (number : Nat) (pieces : List (List Char)) :
    numberLines number (pieces.map (·.flatMap String.utf8EncodeChar)) =
      (((pieces.map fun line => String.ofList (Text.withoutTerminator line)).zipIdx number).filter
        fun line => !Text.isAllBlank line.1).map SourceLine.ofLine := by
  induction pieces generalizing number with
  | nil => rfl
  | cons piece pieces ih =>
      have hdecode : Text.Utf8.decode? (piece.flatMap String.utf8EncodeChar) =
          some (String.ofList piece) := by
        simpa [Text.Utf8.encode] using Text.Utf8.decode?_encode (String.ofList piece)
      rw [List.map_cons, numberLines, ih, SourceLine.ofBytes?, hdecode]
      dsimp only
      rw [String.toList_ofList, List.map_cons, List.zipIdx_cons, List.filter_cons]
      cases Text.isAllBlank (String.ofList (Text.withoutTerminator piece)) <;> rfl

/-- The lines of a text are encoded one by one. -/
theorem Text.cutAfter_encode (s : String) :
    cutAfter lineFeed (Utf8.encode s) =
      (cutAfter '\n' s.toList).map (·.flatMap String.utf8EncodeChar) := by
  refine cutAfter_flatMap (f := String.utf8EncodeChar) rfl (fun c hc => ?_) s.toList
  exact ⟨String.utf8EncodeChar_ne_nil, Utf8.lineFeed_not_mem_encodeChar hc⟩

/-- The reader finds the lines of a text that are not blank, and none that it could not read. -/
theorem sourceLines_encode (s : String) :
    sourceLines (Text.Utf8.encode s) = (Text.writtenLines s).map SourceLine.ofLine := by
  rw [sourceLines, Text.cutAfter_encode, numberLines_encode]
  rfl

/-! ### Keywords -/

namespace Keyword

theorem mem_all (k : Keyword) : k ∈ Keyword.all := by cases k <;> decide

/-- No keyword is the beginning of another. -/
theorem lead_append_inj (k k' : Keyword) {rest rest' : String}
    (h : k.lead ++ rest = k'.lead ++ rest') : k = k' ∧ rest = rest' := by
  have hlist : k.lead.toList ++ rest.toList = k'.lead.toList ++ rest'.toList := by
    simpa using congrArg String.toList h
  -- Of two leads at the front of one line, one begins the other.
  have hdistinct : ∀ k ∈ all, ∀ k' ∈ all, k.lead.toList <+: k'.lead.toList → k = k' := by decide
  have hk : k = k' := by
    rcases List.prefix_or_prefix_of_prefix (List.prefix_append k.lead.toList rest.toList)
      (hlist ▸ List.prefix_append k'.lead.toList rest'.toList) with hp | hp
    · exact hdistinct k (mem_all k) k' (mem_all k') hp
    · exact (hdistinct k' (mem_all k') k (mem_all k) hp).symm
  subst hk
  exact ⟨rfl, String.toList_injective (List.append_cancel_left hlist)⟩

/-- A line begins with a keyword exactly when it is that keyword with the rest behind it. -/
theorem classify_eq_some_iff {line rest : String} {k : Keyword} :
    classify line = some (k, rest) ↔ line = k.lead ++ rest := by
  constructor
  · intro h
    obtain ⟨k', -, hk'⟩ := List.exists_of_findSome?_eq_some h
    obtain ⟨rest', hrest, heq⟩ := Option.map_eq_some_iff.mp hk'
    cases heq
    exact Text.afterLead?_eq_some_iff.mp hrest
  · intro h
    -- The search finds some keyword, and no other than `k` leads this line.
    have hfound : (classify line).isSome := by
      rw [classify, List.findSome?_isSome_iff]
      exact ⟨k, mem_all k, by simp [Text.afterLead?_eq_some_iff.mpr h]⟩
    obtain ⟨⟨k', rest'⟩, hk'⟩ := Option.isSome_iff_exists.mp hfound
    obtain ⟨k'', -, hk''⟩ := List.exists_of_findSome?_eq_some hk'
    obtain ⟨rest'', hrest, heq⟩ := Option.map_eq_some_iff.mp hk''
    cases heq
    obtain ⟨rfl, rfl⟩ := lead_append_inj k k' (h.symm.trans (Text.afterLead?_eq_some_iff.mp hrest))
    exact hk'

end Keyword

/-! ### Blocks -/

/-- A piece of the root file that is complete in itself. -/
inductive Block
  | component (path : String)
  | check (command equals : String)
  | external (label path : String)
  /-- An override may be followed by a remark on its first line and by anything on its second. -/
  | override (remark name target rest : String)
  /-- A line that is no directive. -/
  | aside (line : String)
deriving DecidableEq, Repr

namespace Block

/-- A line that begins a directive. -/
def Opens (line : String) : Prop :=
  ∃ rest, line = "include " ++ rest ∨ line = "# check " ++ rest ∨ line = "# extern " ++ rest ∨
    line = "# override" ++ rest

/-- The lines of a block. -/
def lines : Block → List String
  | component path => ["include " ++ path]
  | check command equals => ["# check " ++ command, "# equal " ++ equals]
  | external label path => ["# extern " ++ label, "include " ++ path]
  | override remark name target rest =>
    ["# override" ++ remark, name ++ "/" ++ target ++ ":" ++ rest]
  | aside line => [line]

/-- A name that an override can give: not empty, and without slash and colon. -/
def IsName (name : String) : Prop :=
  name ≠ "" ∧ '/' ∉ name.toList ∧ ':' ∉ name.toList

/-- An override gives names, and a line that stands aside begins no directive. -/
def Valid : Block → Prop
  | override _ name target _ => IsName name ∧ IsName target
  | aside line => ¬Opens line
  | _ => True

/-- The directive that a block declares. -/
def directive? : Block → Option Directive
  | component path => some (.component ⟨⟨path⟩, none⟩)
  | check command equals => some (.check ⟨command, equals⟩)
  | external label path => some (.component ⟨⟨path⟩, some label⟩)
  | override _ name target _ => some (.override ⟨name, target⟩)
  | aside _ => none

end Block

/-- The lines that are not blank are those of the blocks, in order. -/
structure Decomposes (s : String) (blocks : List Block) : Prop where
  valid : ∀ b ∈ blocks, b.Valid
  lines : blocks.flatMap Block.lines = (Text.writtenLines s).map (·.1)

/-! ### What the reader does on a block -/

/-- An override is read from a line exactly when its names stand there as names. -/
theorem Override.ofLine?_eq_some_iff {line : String} {o : Override} :
    ofLine? line = some o ↔
      (∃ rest, line = o.component ++ "/" ++ o.target ++ ":" ++ rest) ∧
        Block.IsName o.component ∧ Block.IsName o.target := by
  constructor
  · intro h
    simp only [ofLine?, Option.bind_eq_bind, Option.bind_eq_some_iff, Prod.exists] at h
    obtain ⟨head, rest, hcolon, name, target, hslash, h⟩ := h
    obtain ⟨hline, hhead⟩ := Text.splitFirst_eq_some_iff.mp hcolon
    obtain ⟨rfl, hname⟩ := Text.splitFirst_eq_some_iff.mp hslash
    split at h
    · cases h
    · rename_i hbad
      cases h
      simp only [not_or, List.mem_append, List.mem_cons] at hbad hhead
      obtain ⟨hname', htarget, htarget'⟩ := hbad
      refine ⟨⟨.ofList rest, ?_⟩, ⟨?_, ?_, ?_⟩, ?_, ?_, ?_⟩
      · apply String.toList_injective
        simp [hline]
      all_goals simp_all
  · rintro ⟨⟨rest, rfl⟩, ⟨hname, hname₁, hname₂⟩, htarget, htarget₁, htarget₂⟩
    -- The names hold neither mark, so each mark is the first of its kind.
    have hcolon : Text.splitFirst ':'
        (o.component ++ "/" ++ o.target ++ ":" ++ rest).toList =
          some (o.component.toList ++ '/' :: o.target.toList, rest.toList) := by
      refine Text.splitFirst_eq_some_iff.mpr ⟨by simp, ?_⟩
      simp [hname₂, htarget₂]
    have hslash : Text.splitFirst '/' (o.component.toList ++ '/' :: o.target.toList) =
        some (o.component.toList, o.target.toList) :=
      Text.splitFirst_eq_some_iff.mpr ⟨rfl, hname₁⟩
    simp only [ofLine?, hcolon, hslash, Option.bind_eq_bind, Option.bind_some]
    rw [if_neg]
    · simp
    · simp [hname, htarget, htarget₁]

namespace Block

theorem ofLine_component (path : String) :
    Sentence.ofLine ("include " ++ path) = .whole (.component ⟨⟨path⟩, none⟩) := by
  have hk : Keyword.classify ("include " ++ path) = some (.component, path) :=
    Keyword.classify_eq_some_iff.mpr rfl
  rw [Sentence.ofLine, hk]

theorem ofLine_check (command : String) :
    Sentence.ofLine ("# check " ++ command) = .opens .check command := by
  have hk : Keyword.classify ("# check " ++ command) = some (.check, command) :=
    Keyword.classify_eq_some_iff.mpr rfl
  rw [Sentence.ofLine, hk]

theorem ofLine_external (label : String) :
    Sentence.ofLine ("# extern " ++ label) = .opens .external label := by
  have hk : Keyword.classify ("# extern " ++ label) = some (.external, label) :=
    Keyword.classify_eq_some_iff.mpr rfl
  rw [Sentence.ofLine, hk]

theorem ofLine_override (remark : String) :
    Sentence.ofLine ("# override" ++ remark) = .opens .override "" := by
  have hk : Keyword.classify ("# override" ++ remark) = some (.override, remark) :=
    Keyword.classify_eq_some_iff.mpr rfl
  rw [Sentence.ofLine, hk]

/-- A line that stands aside says nothing. -/
theorem ofLine_aside {line : String} (h : ¬Opens line) : Sentence.ofLine line = .aside := by
  unfold Sentence.ofLine
  split <;> rename_i hk <;> try rfl
  -- What is left are the four keywords that open a directive.
  all_goals have hline := Keyword.classify_eq_some_iff.mp hk
  · exact absurd ⟨_, .inl hline⟩ h
  · exact absurd ⟨_, .inr (.inl hline)⟩ h
  · exact absurd ⟨_, .inr (.inr (.inl hline))⟩ h
  · exact absurd ⟨_, .inr (.inr (.inr hline))⟩ h

/-- The second line of a directive of two is read with the rest of its first. -/
theorem complete?_check (command equals : String) :
    Opener.check.complete? command ("# equal " ++ equals) = some (.check ⟨command, equals⟩) := by
  have hstrip : Keyword.equal.strip ("# equal " ++ equals) = some equals :=
    Text.afterLead?_eq_some_iff.mpr rfl
  simp [Opener.complete?, hstrip]

theorem complete?_external (label path : String) :
    Opener.external.complete? label ("include " ++ path) =
      some (.component ⟨⟨path⟩, some label⟩) := by
  have hstrip : Keyword.component.strip ("include " ++ path) = some path :=
    Text.afterLead?_eq_some_iff.mpr rfl
  simp [Opener.complete?, hstrip]

theorem complete?_override {name target : String} (hname : IsName name) (htarget : IsName target)
    (opened rest : String) :
    Opener.override.complete? opened (name ++ "/" ++ target ++ ":" ++ rest) =
      some (.override ⟨name, target⟩) := by
  have hread : Override.ofLine? (name ++ "/" ++ target ++ ":" ++ rest) = some ⟨name, target⟩ :=
    Override.ofLine?_eq_some_iff.mpr ⟨⟨rest, rfl⟩, hname, htarget⟩
  simp [Opener.complete?, hread]

/-- What the first line of a block says. -/
def sentence : Block → Sentence
  | component path => .whole (.component ⟨⟨path⟩, none⟩)
  | check command _ => .opens .check command
  | external label _ => .opens .external label
  | override .. => .opens .override ""
  | aside _ => .aside

theorem lines_ne_nil (b : Block) : b.lines ≠ [] := by cases b <;> simp [lines]

theorem ofLine_of_lines {b : Block} (hb : b.Valid) {line : String} {behind : List String}
    (h : b.lines = line :: behind) : Sentence.ofLine line = b.sentence := by
  cases b <;> obtain ⟨rfl, -⟩ := List.cons.inj h
  case component path => exact ofLine_component path
  case check command _ => exact ofLine_check command
  case external label _ => exact ofLine_external label
  case override remark _ _ _ => exact ofLine_override remark
  case aside => exact ofLine_aside hb

/-- How the reader takes the lines of a block. -/
theorem reads {b : Block} (hb : b.Valid) :
    (∃ line, b.lines = [line] ∧ Sentence.ofLine line = .aside ∧ b.directive? = none) ∨
      (∃ line d, b.lines = [line] ∧ Sentence.ofLine line = .whole d ∧ b.directive? = some d) ∨
      ∃ line second opener opened d, b.lines = [line, second] ∧
        Sentence.ofLine line = .opens opener opened ∧
        opener.complete? opened second = some d ∧ b.directive? = some d := by
  cases b with
  | component path => exact .inr (.inl ⟨_, _, rfl, ofLine_component path, rfl⟩)
  | check command equals =>
      exact .inr (.inr
        ⟨_, _, _, _, _, rfl, ofLine_check command, complete?_check command equals, rfl⟩)
  | external label path =>
      exact .inr (.inr
        ⟨_, _, _, _, _, rfl, ofLine_external label, complete?_external label path, rfl⟩)
  | override remark name target rest =>
      exact .inr (.inr
        ⟨_, _, _, _, _, rfl, ofLine_override remark, complete?_override hb.1 hb.2 "" rest, rfl⟩)
  | aside line => exact .inl ⟨line, rfl, ofLine_aside hb, rfl⟩

end Block

/-- Reading over a block declares its directive and goes on behind it. -/
theorem readLines_block {b : Block} (hb : b.Valid) {taken : List (String × Nat)}
    (htaken : taken.map (·.1) = b.lines) (rest : List SourceLine) :
    readLines (taken.map SourceLine.ofLine ++ rest) =
      (b.directive?.toList ++ ·) <$> readLines rest := by
  rcases Block.reads hb with ⟨line, hlines, hsentence, hdecl⟩ |
    ⟨line, d, hlines, hsentence, hdecl⟩ |
    ⟨line, second, opener, opened, d, hlines, hsentence, hcomplete, hdecl⟩
  · rw [hlines] at htaken
    obtain ⟨first, rfl, rfl⟩ := List.map_eq_singleton_iff.mp htaken
    simp [SourceLine.ofLine, readLines, hsentence, hdecl]
  · rw [hlines] at htaken
    obtain ⟨first, rfl, rfl⟩ := List.map_eq_singleton_iff.mp htaken
    simp [SourceLine.ofLine, readLines, hsentence, hdecl]
  · rw [hlines] at htaken
    obtain ⟨first, others, rfl, rfl, hothers⟩ := List.map_eq_cons_iff.mp htaken
    obtain ⟨next, rfl, rfl⟩ := List.map_eq_singleton_iff.mp hothers
    simp [SourceLine.ofLine, readLines, hsentence, hcomplete, hdecl]

/-- A sequence of blocks is read, and declares what its blocks declare. -/
theorem readLines_blocks {blocks : List Block} (hblocks : ∀ b ∈ blocks, b.Valid)
    {written : List (String × Nat)} (hwritten : blocks.flatMap Block.lines = written.map (·.1)) :
    readLines (written.map SourceLine.ofLine) = .ok (blocks.filterMap Block.directive?) := by
  induction blocks generalizing written with
  | nil =>
      obtain rfl : written = [] := by simpa using hwritten.symm
      rfl
  | cons b blocks ih =>
      obtain ⟨taken, rest, rfl, htaken, hrest⟩ := List.map_eq_append_iff.mp hwritten.symm
      have hread := ih (fun b' hb' => hblocks b' (List.mem_cons_of_mem b hb')) hrest.symm
      rw [List.map_append, readLines_block (hblocks b List.mem_cons_self) htaken, hread]
      cases hd : b.directive? <;> simp [hd, Functor.map, Except.map]

/-! ### Taking a text apart -/

/-- The lines at the front are those of a block. -/
def BeginsWithBlock (written : List (String × Nat)) : Prop :=
  ∃ (b : Block) (taken rest : List (String × Nat)),
    b.Valid ∧ written = taken ++ rest ∧ taken.map (·.1) = b.lines

/-- The reader stops at a broken pair of lines. -/
def IsBroken (written : List (String × Nat)) : Prop :=
  ∃ number pair, readLines (written.map SourceLine.ofLine) = .error (.parse number pair)

/-- A line that opens a directive of two begins a block, or breaks the text. -/
theorem begins_or_broken_of_opens {first : String × Nat} {rest : List (String × Nat)}
    {opener : Opener} {opened : String} (hsentence : Sentence.ofLine first.1 = .opens opener opened)
    (hfits : ∀ {second d}, opener.complete? opened second = some d →
      ∃ b : Block, b.Valid ∧ b.lines = [first.1, second]) :
    BeginsWithBlock (first :: rest) ∨ IsBroken (first :: rest) := by
  cases rest with
  | nil => exact .inr ⟨first.2, .cutOff opener, by simp [SourceLine.ofLine, readLines, hsentence]⟩
  | cons second rest =>
      cases hcomplete : opener.complete? opened second.1 with
      | none =>
          refine .inr ⟨second.2, .wrongSecond opener second.1, ?_⟩
          simp [SourceLine.ofLine, readLines, hsentence, hcomplete]
      | some d =>
          obtain ⟨b, hb, hlines⟩ := hfits hcomplete
          exact .inl ⟨b, [first, second], rest, hb, rfl, by simp [hlines]⟩

/-- Lines that there are begin with a block, or the reader stops at a broken pair. -/
theorem begins_or_broken (first : String × Nat) (rest : List (String × Nat)) :
    BeginsWithBlock (first :: rest) ∨ IsBroken (first :: rest) := by
  by_cases hopens : Block.Opens first.1
  · obtain ⟨behind, h | h | h | h⟩ := hopens
    · exact .inl ⟨.component behind, [first], rest, trivial, rfl, by simp [h, Block.lines]⟩
    · refine begins_or_broken_of_opens (h ▸ Block.ofLine_check behind) fun hcomplete => ?_
      obtain ⟨equals, hstrip, -⟩ := Option.map_eq_some_iff.mp hcomplete
      obtain rfl := Text.afterLead?_eq_some_iff.mp hstrip
      exact ⟨.check behind equals, trivial, by rw [h]; rfl⟩
    · refine begins_or_broken_of_opens (h ▸ Block.ofLine_external behind) fun hcomplete => ?_
      obtain ⟨path, hstrip, -⟩ := Option.map_eq_some_iff.mp hcomplete
      obtain rfl := Text.afterLead?_eq_some_iff.mp hstrip
      exact ⟨.external behind path, trivial, by rw [h]; rfl⟩
    · refine begins_or_broken_of_opens (h ▸ Block.ofLine_override behind) fun hcomplete => ?_
      obtain ⟨o, hread, -⟩ := Option.map_eq_some_iff.mp hcomplete
      obtain ⟨⟨rest, rfl⟩, hname, htarget⟩ := Override.ofLine?_eq_some_iff.mp hread
      exact ⟨.override behind o.component o.target rest, ⟨hname, htarget⟩, by rw [h]; rfl⟩
  · exact .inl ⟨.aside first.1, [first], rest, hopens, rfl, rfl⟩

/-- The lines are those of a sequence of blocks, or the reader stops at a broken pair. -/
theorem exists_blocks_or_broken (written : List (String × Nat)) :
    (∃ blocks : List Block, (∀ b ∈ blocks, b.Valid) ∧
        blocks.flatMap Block.lines = written.map (·.1)) ∨ IsBroken written := by
  -- By induction on the number of lines: a block takes at least one from the front.
  induction hn : written.length using Nat.strongRecOn generalizing written with
  | ind n ih =>
      cases written with
      | nil => exact .inl ⟨[], by simp, rfl⟩
      | cons first written =>
          rcases begins_or_broken first written with ⟨b, taken, rest, hb, hsplit, hlines⟩ | hbroken
          · rw [hsplit] at hn ⊢
            have htaken : 0 < taken.length := by
              rw [← List.length_map (·.1), hlines]
              exact List.length_pos_iff.mpr b.lines_ne_nil
            have hlt : rest.length < n := by
              rw [List.length_append] at hn
              omega
            rcases ih rest.length hlt rest rfl with
              ⟨blocks, hblocks, hrest⟩ | ⟨number, pair, herror⟩
            · refine .inl ⟨b :: blocks, List.forall_mem_cons.mpr ⟨hb, hblocks⟩, ?_⟩
              rw [List.flatMap_cons, hrest, List.map_append, hlines]
            · refine .inr ⟨number, pair, ?_⟩
              rw [List.map_append, readLines_block hb hlines, herror]
              rfl
          · exact .inr hbroken

/-! ### There is one way to take it apart -/

namespace Block

/-- What stands before and behind the slash and the colon is told by the line. -/
theorem override_inj {name name' target target' rest rest' : String}
    (hname : IsName name) (hname' : IsName name') (htarget : IsName target)
    (htarget' : IsName target')
    (h : name ++ "/" ++ target ++ ":" ++ rest = name' ++ "/" ++ target' ++ ":" ++ rest') :
    name = name' ∧ target = target' ∧ rest = rest' := by
  have hlist : name.toList ++ '/' :: (target.toList ++ ':' :: rest.toList) =
      name'.toList ++ '/' :: (target'.toList ++ ':' :: rest'.toList) := by
    simpa using congrArg String.toList h
  obtain ⟨h₁, hbehind⟩ := Text.append_cons_inj_of_not_mem hlist hname.2.1 hname'.2.1
  obtain ⟨h₂, h₃⟩ := Text.append_cons_inj_of_not_mem hbehind htarget.2.2 htarget'.2.2
  exact ⟨String.toList_injective h₁, String.toList_injective h₂, String.toList_injective h₃⟩

/-- A block is told by its lines, and where it ends by what it begins with. -/
theorem lines_append_inj {b b' : Block} (hb : b.Valid) (hb' : b'.Valid) {rest rest' : List String}
    (h : b.lines ++ rest = b'.lines ++ rest') : b = b' ∧ rest = rest' := by
  have hsentence : b.sentence = b'.sentence := by
    obtain ⟨line, behind, hlines⟩ := List.exists_cons_of_ne_nil b.lines_ne_nil
    obtain ⟨line', behind', hlines'⟩ := List.exists_cons_of_ne_nil b'.lines_ne_nil
    rw [hlines, hlines', List.cons_append, List.cons_append] at h
    rw [← ofLine_of_lines hb hlines, ← ofLine_of_lines hb' hlines', (List.cons.inj h).1]
  -- Blocks of two kinds say different things, which leaves pairs of one kind.
  cases b <;> cases b' <;>
    simp only [sentence, reduceCtorEq, Sentence.opens.injEq, false_and] at hsentence <;>
    simp only [lines, List.cons_append, List.nil_append, List.cons.injEq] at h
  case component.component =>
    obtain ⟨-, rfl⟩ := Keyword.lead_append_inj .component .component h.1
    exact ⟨rfl, h.2⟩
  case check.check =>
    obtain ⟨-, rfl⟩ := Keyword.lead_append_inj .check .check h.1
    obtain ⟨-, rfl⟩ := Keyword.lead_append_inj .equal .equal h.2.1
    exact ⟨rfl, h.2.2⟩
  case external.external =>
    obtain ⟨-, rfl⟩ := Keyword.lead_append_inj .external .external h.1
    obtain ⟨-, rfl⟩ := Keyword.lead_append_inj .component .component h.2.1
    exact ⟨rfl, h.2.2⟩
  case override.override =>
    obtain ⟨-, rfl⟩ := Keyword.lead_append_inj .override .override h.1
    obtain ⟨rfl, rfl, rfl⟩ := override_inj hb.1 hb'.1 hb.2 hb'.2 h.2.1
    exact ⟨rfl, h.2.2⟩
  case aside.aside =>
    obtain ⟨rfl, rfl⟩ := h
    exact ⟨rfl, rfl⟩

end Block

/-- Two sequences of blocks with the same lines are the same. -/
theorem blocks_unique {blocks blocks' : List Block} (hvalid : ∀ b ∈ blocks, b.Valid)
    (hvalid' : ∀ b ∈ blocks', b.Valid)
    (h : blocks.flatMap Block.lines = blocks'.flatMap Block.lines) : blocks = blocks' := by
  induction blocks generalizing blocks' with
  | nil =>
      cases blocks' with
      | nil => rfl
      | cons b' blocks' => simp [b'.lines_ne_nil] at h
  | cons b blocks ih =>
      cases blocks' with
      | nil => simp [b.lines_ne_nil] at h
      | cons b' blocks' =>
          obtain ⟨hb, hblocks⟩ := List.forall_mem_cons.mp hvalid
          obtain ⟨hb', hblocks'⟩ := List.forall_mem_cons.mp hvalid'
          rw [List.flatMap_cons, List.flatMap_cons] at h
          obtain ⟨rfl, hrest⟩ := Block.lines_append_inj hb hb' h
          rw [ih hblocks hblocks' hrest]

/-- **The grammar of the root file.** A text is accepted exactly when its lines that are not blank
are a sequence of blocks. It is then so in one way only, and the directives are those of the blocks,
in order. Every other text is refused for a broken pair of lines. -/
theorem readDirectives_grammar (text : String) :
    (∀ directives, readDirectives (Text.Utf8.encode text) = .ok directives ↔
      ∃ blocks, Decomposes text blocks ∧ blocks.filterMap Block.directive? = directives) ∧
    (∀ blocks blocks', Decomposes text blocks → Decomposes text blocks' → blocks = blocks') ∧
    ((¬∃ blocks, Decomposes text blocks) →
      ∃ line pair, readDirectives (Text.Utf8.encode text) = .error (.parse line pair)) := by
  have hread {blocks : List Block} (h : Decomposes text blocks) :
      readDirectives (Text.Utf8.encode text) = .ok (blocks.filterMap Block.directive?) := by
    rw [readDirectives, sourceLines_encode]
    exact readLines_blocks h.valid h.lines
  have hdecide : (∃ blocks, Decomposes text blocks) ∨
      ∃ line pair, readDirectives (Text.Utf8.encode text) = .error (.parse line pair) := by
    rw [readDirectives, sourceLines_encode]
    rcases exists_blocks_or_broken (Text.writtenLines text) with ⟨blocks, hvalid, hlines⟩ | herror
    · exact .inl ⟨blocks, hvalid, hlines⟩
    · exact .inr herror
  refine ⟨fun directives => ⟨fun h => ?_, fun ⟨blocks, hblocks, hdecl⟩ => hdecl ▸ hread hblocks⟩,
    fun blocks blocks' h h' => ?_, fun hnone => hdecide.resolve_left hnone⟩
  · rcases hdecide with ⟨blocks, hblocks⟩ | ⟨line, pair, herror⟩
    · rw [hread hblocks] at h
      exact ⟨blocks, hblocks, Except.ok.inj h⟩
    · rw [herror] at h
      cases h
  · exact blocks_unique h.valid h'.valid (h.lines.trans h'.lines.symm)

end Ensemble
