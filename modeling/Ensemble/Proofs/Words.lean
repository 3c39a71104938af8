import Ensemble.Proofs.Segments
import Ensemble.Shell.Reader

/-!
# Ensemble.Proofs.Words

**What a command is split into**, said twice. The words of a text are what stands between its spaces
(`Text.words`); that words split at a space (`words_space`) is all that is needed to follow them
through a text that is put together. And they are what the shell reads: a text of ordinary
characters is one simple command of just these words (`Shell.reads_words`).

For the second, the text is taken apart once, into words with spaces around them (`Spaced`). A
cursor then has words ahead of it (`Cursor.Ahead`), or behind it a token that may be read once more
(`Cursor.Behind`), and each part of the reader has one lemma that says what it makes of that: a word
(`word_ordinary`), a token (`token_fresh`, `token_again`), the words of a command
(`simpleParts_ahead`, by induction on the words), a list that is a single command
(`listFrom_ahead`).
-/

namespace Ensemble

/-! ### Words -/

namespace Text

/-- What stands between the spaces of a text and is not empty. -/
def wordPieces (cs : List Char) : List (List Char) :=
  ((cutBetween ' ' cs).1 :: (cutBetween ' ' cs).2).filter (· ≠ [])

/-- The words of a text, which spaces set apart. -/
def words (s : String) : List String :=
  (wordPieces s.toList).map .ofList

/-- A text that is one word. -/
structure IsWord (s : String) : Prop where
  ne_empty : s ≠ ""
  no_space : ' ' ∉ s.toList

/-- **Words split at a space.** -/
theorem words_space (s t : String) : words (s ++ " " ++ t) = words s ++ words t := by
  have htext : (s ++ " " ++ t).toList = s.toList ++ ' ' :: t.toList := by simp
  rw [words, wordPieces, htext, cutBetween_append_cons, ← List.cons_append, List.filter_append,
    List.map_append]
  rfl

theorem IsWord.words_eq {s : String} (h : IsWord s) : words s = [s] := by
  have hne : s.toList ≠ [] := by simpa using h.ne_empty
  rw [words, wordPieces, cutBetween_of_not_mem h.no_space]
  simp [hne]

theorem isWord_of_mem_words {s w : String} (h : w ∈ words s) : IsWord w := by
  obtain ⟨piece, hpiece, rfl⟩ := List.mem_map.mp h
  obtain ⟨hmem, hne⟩ := List.mem_filter.mp hpiece
  have hspace := not_mem_of_mem_cutBetween (List.mem_cons.mp hmem)
  exact ⟨by simpa using hne, by simpa using hspace⟩

/-- Two texts come through as two words exactly if each of them is one. -/
theorem words_append_eq_iff {s t : String} :
    words s ++ words t = [s, t] ↔ IsWord s ∧ IsWord t := by
  constructor
  · intro h
    have hwords : ∀ w ∈ [s, t], IsWord w := fun w hw => by
      rw [← h] at hw
      exact (List.mem_append.mp hw).elim isWord_of_mem_words isWord_of_mem_words
    exact ⟨hwords s (by simp), hwords t (by simp)⟩
  · rintro ⟨hs, ht⟩
    rw [hs.words_eq, ht.words_eq]
    rfl

end Text

/-! ### What the shell reads -/

namespace Shell

/-- A character that means nothing but itself to a reader of commands, wherever it stands. -/
def isOrdinary (c : Char) : Bool :=
  !(['<', '>', '(', ')', ';', '&', '|', ' ', '\t', '\n', '\x5c', '$', '`', '}', '\x27', '"',
    '#'].contains c)

/-- Words of ordinary characters, with spaces before, between and behind them. -/
inductive Spaced : List Char → List (List Char) → Prop
  | gap (n : Nat) : Spaced (List.replicate n ' ') []
  | word (n : Nat) {w rest : List Char} {ws : List (List Char)} (hne : w ≠ [])
    (hw : ∀ x ∈ w, isOrdinary x = true) (hrest : ∀ x ∈ rest.head?, x = ' ')
    (h : Spaced rest ws) : Spaced (List.replicate n ' ' ++ (w ++ rest)) (w :: ws)

theorem Spaced.cons_space {cs : List Char} {ws : List (List Char)} (h : Spaced cs ws) :
    Spaced (' ' :: cs) ws := by
  cases h with
  | gap n => exact .gap (n + 1)
  | word n hne hw hrest h => exact .word (n + 1) hne hw hrest h

theorem Spaced.length_le {cs : List Char} {ws : List (List Char)} (h : Spaced cs ws) :
    ws.length ≤ cs.length := by
  induction h with
  | gap n => exact Nat.zero_le _
  | word n hne hw hrest h ih =>
      have hpos := List.length_pos_of_ne_nil hne
      simp only [List.length_cons, List.length_append, List.length_replicate]
      omega

/-- A word stands before a text that begins with a space or is empty; what is empty is no word. -/
theorem Spaced.append {w rest : List Char} {ws : List (List Char)}
    (hw : ∀ x ∈ w, isOrdinary x = true) (hrest : ∀ x ∈ rest.head?, x = ' ')
    (h : Spaced rest ws) : Spaced (w ++ rest) ([w].filter (· ≠ []) ++ ws) := by
  by_cases hne : w = []
  · simpa [hne] using h
  · have hword := Spaced.word 0 hne hw hrest h
    simpa [hne] using hword

theorem spaced_joinBetween {head : List Char} {tail : List (List Char)}
    (hhead : ∀ x ∈ head, isOrdinary x = true)
    (htail : ∀ piece ∈ tail, ∀ x ∈ piece, isOrdinary x = true) :
    Spaced (Text.joinBetween ' ' (head, tail)) ((head :: tail).filter (· ≠ [])) := by
  induction tail generalizing head with
  | nil =>
      have hspaced := Spaced.append hhead (by simp) (.gap 0)
      simpa [Text.joinBetween] using hspaced
  | cons piece tail ih =>
      obtain ⟨hpiece, htail⟩ := List.forall_mem_cons.mp htail
      have hspaced := Spaced.append hhead (by simp) (ih hpiece htail).cons_space
      have hjoin : Text.joinBetween ' ' (head, piece :: tail) =
          head ++ ' ' :: Text.joinBetween ' ' (piece, tail) := by simp [Text.joinBetween]
      rwa [← List.filter_append, List.singleton_append, ← hjoin] at hspaced

/-- A text of ordinary characters and spaces is its words with spaces around them. -/
theorem spaced_wordPieces {cs : List Char} (h : ∀ x ∈ cs, x = ' ' ∨ isOrdinary x = true) :
    Spaced cs (Text.wordPieces cs) := by
  have hjoin := Text.joinBetween_cutBetween ' ' cs
  have hpieces : ∀ piece ∈ (Text.cutBetween ' ' cs).1 :: (Text.cutBetween ' ' cs).2,
      ∀ x ∈ piece, isOrdinary x = true := by
    intro piece hpiece x hx
    have hspace := Text.not_mem_of_mem_cutBetween (List.mem_cons.mp hpiece)
    have hmem : x ∈ cs := by
      rw [← hjoin, Text.joinBetween, List.mem_append, List.mem_flatMap]
      rcases List.mem_cons.mp hpiece with rfl | htail
      · exact .inl hx
      · exact .inr ⟨piece, htail, List.mem_cons_of_mem _ hx⟩
    exact (h x hmem).resolve_left fun heq => hspace (heq ▸ hx)
  obtain ⟨hhead, htail⟩ := List.forall_mem_cons.mp hpieces
  have hspaced : Spaced (Text.joinBetween ' ' (Text.cutBetween ' ' cs)) (Text.wordPieces cs) :=
    spaced_joinBetween hhead htail
  rwa [hjoin] at hspaced

/-! #### Reading a word -/

namespace Reading

/-- Reading goes on behind what has been read. -/
theorem bind_of_ok {α β : Type} {x : Reading α} {f : α → Reading β} {c c' : Cursor} {a : α}
    (h : x c = .ok (a, c')) : (x >>= f) c = f a c' := by
  change (x c).bind _ = _
  rw [h]
  rfl

theorem pure_eq {α : Type} (a : α) (c : Cursor) : (pure a : Reading α) c = .ok (a, c) := rfl

theorem get_eq (c : Cursor) : (get : Reading Cursor) c = .ok (c, c) := rfl

end Reading

/-- The cursor stands before this text, on the first line, and no alias is known. -/
structure Cursor.Before (c : Cursor) (text : List Char) : Prop where
  left_eq : c.left = text
  inUse_eq : c.inUse = []
  aliases_eq : c.aliases = []
  aliasNext_eq : c.aliasNext = false
  line_eq : c.line = 1

namespace Cursor.Before

variable {c : Cursor} {x : Char} {text : List Char}

/-- Looking ahead changes nothing where there is no backslash. -/
theorem peek (h : c.Before text) (htext : text.head? ≠ some '\x5c') :
    Reading.peek c = .ok (text.head?, c) := by
  have hjoin : c.join = c := by
    unfold Cursor.join Cursor.join.go
    split
    · rename_i hleft
      simp [← h.left_eq, hleft] at htext
    · rfl
  have hrelease : c.release = c := by rw [Cursor.release, h.inUse_eq]
  have hpeek : Reading.peek c = .ok (c.join.release.left.head?, c.join.release) := rfl
  rw [hpeek, hjoin, hrelease, h.left_eq]

theorem peek_gap (h : c.Before text) (htext : ∀ x ∈ text.head?, x = ' ') :
    Reading.peek c = .ok (text.head?, c) :=
  h.peek fun hbackslash => absurd (htext _ hbackslash) (by decide)

theorem peek_ordinary (h : c.Before (x :: text)) (hx : isOrdinary x = true) :
    Reading.peek c = .ok (some x, c) :=
  h.peek fun hbackslash => by
    obtain rfl := Option.some.inj hbackslash
    exact absurd hx (by decide)

/-- What has been read before says nothing of what stands before the cursor. -/
theorem whatever_read (h : c.Before text) {last : Token} {pushed : Bool} {lastWord : Word}
    {owed : List Owed} : Cursor.Before { c with last, pushed, lastWord, owed } text :=
  ⟨h.left_eq, h.inUse_eq, h.aliases_eq, h.aliasNext_eq, h.line_eq⟩

theorem skip (h : c.Before (x :: text)) :
    ∃ c', Reading.skip 1 c = .ok ((), c') ∧ c'.Before text ∧ c'.pushed = c.pushed := by
  refine ⟨_, rfl, ⟨?_, h.inUse_eq, h.aliases_eq, h.aliasNext_eq, h.line_eq⟩, rfl⟩
  exact congrArg (List.drop 1) h.left_eq

end Cursor.Before

namespace WordReader

variable (readers : ScriptReaders) {c : Cursor} {w : WordState} {x : Char} {cs rest : List Char}
  {fuel : Nat}

theorem frame_plain (w : WordState) (x : Char) : (w.plain x).frame = w.frame := by
  unfold WordState.plain
  split <;> rfl

/-- An ordinary character is added to the word. -/
theorem readFrom_ordinary (fuel : Nat) (hw : w.frame = { shape := .base })
    (h : c.Before (x :: rest)) (hx : isOrdinary x = true) :
    ∃ c', c'.Before rest ∧ c'.pushed = c.pushed ∧
      readFrom readers {} (fuel + 1) false w c = readFrom readers {} fuel false (w.plain x) c' := by
  obtain ⟨c', hskip, hc', hpushed⟩ := h.skip
  refine ⟨c', hc', hpushed, ?_⟩
  have hpeek := h.peek_ordinary hx
  simp only [isOrdinary, List.contains_eq_mem, List.mem_cons, List.not_mem_nil, or_false,
    Bool.not_eq_true', decide_eq_false_iff_not, not_or] at hx
  -- every case of the reader but the last is one of the characters that are not ordinary
  rw [readFrom]
  simp [hw, Reading.bind_of_ok hpeek, Reading.bind_of_ok hskip, hx, WordState.char]

/-- A space and the end of the text end the word. -/
theorem readFrom_gap (hw : w.frame = { shape := .base }) (h : c.Before rest)
    (hrest : ∀ x ∈ rest.head?, x = ' ') :
    readFrom readers {} (fuel + 1) false w c = .ok (w, c) := by
  have hpeek := h.peek_gap hrest
  rw [readFrom]
  cases rest with
  | nil => simp [hw, Reading.bind_of_ok hpeek, finishWord, Reading.pure_eq]
  | cons x rest =>
      obtain rfl : x = ' ' := by simpa using hrest
      simp [hw, Reading.bind_of_ok hpeek, finishWord, Reading.pure_eq]

theorem readFrom_word (hw : w.frame = { shape := .base }) (hcs : ∀ x ∈ cs, isOrdinary x = true)
    (hrest : ∀ x ∈ rest.head?, x = ' ') (hfuel : cs.length < fuel) (h : c.Before (cs ++ rest)) :
    ∃ c', readFrom readers {} fuel false w c = .ok (cs.foldl .plain w, c') ∧
      c'.Before rest ∧ c'.pushed = c.pushed := by
  induction cs generalizing fuel w c with
  | nil =>
      obtain ⟨fuel, rfl⟩ := Nat.exists_eq_add_one_of_ne_zero (Nat.ne_zero_of_lt hfuel)
      exact ⟨c, readFrom_gap readers hw h hrest, h, rfl⟩
  | cons x cs ih =>
      obtain ⟨hx, hcs⟩ := List.forall_mem_cons.mp hcs
      obtain ⟨fuel, rfl⟩ := Nat.exists_eq_add_one_of_ne_zero (Nat.ne_zero_of_lt hfuel)
      obtain ⟨c', hc', hpushed, hstep⟩ := readFrom_ordinary readers fuel hw h hx
      obtain ⟨c'', hread, hc'', hpushed'⟩ :=
        ih ((frame_plain w x).trans hw) hcs (Nat.lt_of_succ_lt_succ hfuel) hc'
      exact ⟨c'', hstep.trans hread, hc'', hpushed'.trans hpushed⟩

/-- What has been read of a word in plain characters stands in one piece. -/
theorem pieces_foldl_plain (cs s : List Char) (ps : List Piece) (hw : w.pieces = .plain s :: ps) :
    (cs.foldl .plain w).pieces = .plain (cs.reverse ++ s) :: ps ∧
      (cs.foldl .plain w).quoted = w.quoted := by
  induction cs generalizing w s with
  | nil => exact ⟨hw, rfl⟩
  | cons x cs ih =>
      have hplain : w.plain x = { w with pieces := .plain (x :: s) :: ps } := by
        rw [WordState.plain, hw]
      obtain ⟨hpieces, hquoted⟩ := ih (x :: s) (congrArg WordState.pieces hplain)
      rw [List.foldl_cons, hpieces, hquoted, hplain]
      simp

/-- Ordinary characters up to a space or the end are one word, which is not quoted. -/
theorem word_ordinary (hne : cs ≠ []) (hcs : ∀ x ∈ cs, isOrdinary x = true)
    (hrest : ∀ x ∈ rest.head?, x = ' ') (hlength : cs.length < wordLimit)
    (h : c.Before (cs ++ rest)) :
    ∃ c', word readers false c = .ok (([.plain cs], false), c') ∧
      c'.Before rest ∧ c'.pushed = c.pushed := by
  obtain ⟨x, xs, rfl⟩ := List.exists_cons_of_ne_nil hne
  obtain ⟨c', hread, hc', hpushed⟩ :=
    readFrom_word readers (w := { frame := { shape := .base } }) rfl hcs hrest hlength h
  obtain ⟨hpieces, hquoted⟩ :=
    pieces_foldl_plain (w := WordState.plain { frame := { shape := .base } } x) xs [x] [] rfl
  refine ⟨c', ?_, hc', hpushed⟩
  rw [word, Reading.bind_of_ok hread, List.foldl_cons, hpieces, hquoted]
  simp [WordState.tidy, WordState.plain, Reading.pure_eq]

end WordReader

/-! #### Reading tokens -/

namespace Reader

variable (readers : ScriptReaders) {c : Cursor} {cs rest : List Char} {fuel : Nat}

theorem wordToken_ordinary (hne : cs ≠ []) (hcs : ∀ x ∈ cs, isOrdinary x = true)
    (hrest : ∀ x ∈ rest.head?, x = ' ') (hlength : cs.length < tokenLimit)
    (h : c.Before (cs ++ rest)) :
    ∃ c', wordToken readers false c = .ok ((.word [.plain cs], false), c') ∧
      c'.Before rest ∧ c'.pushed = c.pushed := by
  obtain ⟨c', hread, hc', hpushed⟩ :=
    WordReader.word_ordinary readers hne hcs hrest hlength h
  have hpeek := hc'.peek_gap hrest
  refine ⟨{ c' with lastWord := [.plain cs] }, ?_, hc'.whatever_read, hpushed⟩
  rw [wordToken, Reading.bind_of_ok hread]
  dsimp only
  rw [Reading.bind_of_ok hpeek]
  -- behind a word only the mark of a redirection counts, and a space is none
  cases rest with
  | nil => rfl
  | cons x rest =>
      obtain rfl : x = ' ' := by simpa using hrest
      rfl

theorem rawToken_ordinary (hne : cs ≠ []) (hcs : ∀ x ∈ cs, isOrdinary x = true)
    (hrest : ∀ x ∈ rest.head?, x = ' ') (hlength : cs.length < tokenLimit)
    (h : c.Before (cs ++ rest)) :
    ∃ c', rawToken readers false (fuel + 1) c = .ok ((.word [.plain cs], false), c') ∧
      c'.Before rest ∧ c'.pushed = c.pushed := by
  obtain ⟨c', hread, hc', hpushed⟩ :=
    wordToken_ordinary readers hne hcs hrest hlength h
  refine ⟨c', ?_, hc', hpushed⟩
  obtain ⟨x, xs, rfl⟩ := List.exists_cons_of_ne_nil hne
  have hx := hcs x List.mem_cons_self
  have hpeek := h.peek_ordinary hx
  simp only [isOrdinary, List.contains_eq_mem, List.mem_cons, List.not_mem_nil, or_false,
    Bool.not_eq_true', decide_eq_false_iff_not, not_or] at hx
  rw [rawToken, Reading.bind_of_ok hpeek, ← hread]
  simp [hx]

theorem rawToken_end (h : c.Before []) :
    rawToken readers false (fuel + 1) c = .ok ((.finish, false), c) := by
  rw [rawToken, Reading.bind_of_ok (h.peek_gap (by simp))]
  rfl

/-- Spaces before a token are passed over. -/
theorem rawToken_spaces (n : Nat) (h : c.Before (List.replicate n ' ' ++ rest)) :
    ∃ c', rawToken readers false (fuel + n) c = rawToken readers false fuel c' ∧
      c'.Before rest ∧ c'.pushed = c.pushed := by
  induction n generalizing c with
  | zero => exact ⟨c, rfl, h, rfl⟩
  | succ n ih =>
      rw [List.replicate_succ, List.cons_append] at h
      obtain ⟨c', hskip, hc', hpushed⟩ := h.skip
      obtain ⟨c'', hraw, hc'', hpushed'⟩ := ih hc'
      refine ⟨c'', ?_, hc'', hpushed'.trans hpushed⟩
      rw [← Nat.add_assoc, rawToken, Reading.bind_of_ok (h.peek_gap (by simp)), ← hraw]
      exact Reading.bind_of_ok hskip

end Reader

/-- Before the cursor stand these words of ordinary characters. -/
def Cursor.Ahead (c : Cursor) (ws : List (List Char)) : Prop :=
  ∃ text, c.Before text ∧ Spaced text ws ∧ text.length + 1 < Reader.tokenLimit

/-- The token has been read last, it is to be read once more or not, and these words follow. -/
structure Cursor.Behind (c : Cursor) (t : Token) (pushed : Bool) (ws : List (List Char)) :
    Prop where
  ahead : c.Ahead ws
  last_eq : c.last = t
  pushed_eq : c.pushed = pushed

/-- The token of words that begins with the first. -/
def firstToken : List (List Char) → Token
  | [] => .finish
  | w :: _ => .word [.plain w]

namespace Reader

variable (readers : ScriptReaders) {want : Wanted} {c c' : Cursor} {t : Token}
  {ws rest : List (List Char)} {fuel : Nat}

theorem exists_tokenLimit_eq : ∃ limit, tokenLimit = limit + 1 :=
  ⟨9999999, rfl⟩

theorem rawToken_ahead (h : c.Ahead ws) :
    ∃ c', rawToken readers false tokenLimit c = .ok ((firstToken ws, false), c') ∧
      c'.Ahead ws.tail ∧ c'.pushed = c.pushed := by
  obtain ⟨text, hbefore, hspaced, hlength⟩ := h
  cases hspaced with
  | gap n =>
      obtain ⟨fuel, hfuel⟩ : ∃ fuel, tokenLimit = fuel + 1 + n := by
        rw [List.length_replicate] at hlength
        exact ⟨tokenLimit - n - 1, by omega⟩
      rw [← List.append_nil (List.replicate n ' ')] at hbefore
      obtain ⟨c', hskip, hc', hpushed⟩ := rawToken_spaces readers n hbefore
      rw [hfuel, hskip, rawToken_end readers hc']
      exact ⟨c', rfl, ⟨[], hc', .gap 0, by decide⟩, hpushed⟩
  | word n hne hw hrest hspaced =>
      rename_i w rest ws
      simp only [List.length_append, List.length_replicate] at hlength
      obtain ⟨fuel, hfuel⟩ : ∃ fuel, tokenLimit = fuel + 1 + n :=
        ⟨tokenLimit - n - 1, by omega⟩
      obtain ⟨c', hskip, hc', hpushed⟩ := rawToken_spaces readers n hbefore
      obtain ⟨c'', hraw, hc'', hpushed'⟩ :=
        rawToken_ordinary readers hne hw hrest (by omega) hc'
      rw [hfuel, hskip]
      exact ⟨c'', hraw, ⟨rest, hc'', hspaced, by omega⟩, hpushed'.trans hpushed⟩

/-- A token that is not to be read once more comes from the text. -/
theorem repeatedToken_fresh (h : c.Ahead ws) (hpushed : c.pushed = false) :
    ∃ c', repeatedToken readers false c = .ok ((firstToken ws, false), c') ∧
      c'.Behind (firstToken ws) false ws.tail := by
  obtain ⟨c', hraw, ⟨text, hbefore, htext⟩, hpushed'⟩ := rawToken_ahead readers h
  refine ⟨{ c' with last := firstToken ws }, ?_,
    ⟨⟨text, hbefore.whatever_read, htext⟩, rfl, hpushed'.trans hpushed⟩⟩
  rw [repeatedToken, Reading.bind_of_ok (Reading.get_eq c), hpushed]
  exact Reading.bind_of_ok hraw

/-- A token that is to be read once more is the last one. -/
theorem repeatedToken_again (h : c.Behind (firstToken ws) true rest) :
    ∃ c', repeatedToken readers false c = .ok ((firstToken ws, false), c') ∧
      c'.Behind (firstToken ws) false rest := by
  obtain ⟨text, hbefore, htext⟩ := h.ahead
  refine ⟨{ c with pushed := false }, ?_,
    ⟨⟨text, hbefore.whatever_read, htext⟩, h.last_eq, rfl⟩⟩
  rw [repeatedToken, Reading.bind_of_ok (Reading.get_eq c), h.pushed_eq, h.last_eq]
  cases ws <;> rfl

/-- The next of these words is wanted for what it is. -/
structure Takes (want : Wanted) (ws : List (List Char)) : Prop where
  pastLines_eq : want.pastLines = false
  verbatim_eq : want.verbatim = false
  no_keyword : want.keywords = true →
    ∀ w ∈ ws.head?, Keyword.ofText? Keyword.common (.ofList w) = none

theorem token_of_repeated (htakes : Takes want ws)
    (hread : repeatedToken readers false c = .ok ((firstToken ws, false), c'))
    (h : c'.Behind (firstToken ws) false rest) :
    token readers want c = .ok (firstToken ws, c') := by
  obtain ⟨text, hbefore, -⟩ := h.ahead
  have hget := Reading.get_eq c'
  have hsame : { c' with aliasNext := false } = c' := by rw [← hbefore.aliasNext_eq]
  have hmodify : (modify ({ · with aliasNext := false }) : Reading Unit) c' = .ok ((), c') := by
    change Except.ok ((), { c' with aliasNext := false }) = _
    rw [hsame]
  obtain ⟨limit, hlimit⟩ := exists_tokenLimit_eq
  rw [token, hlimit, wantedToken, htakes.verbatim_eq, Reading.bind_of_ok hread,
    htakes.pastLines_eq]
  dsimp only
  rw [if_neg Bool.false_ne_true, pure_bind, Reading.bind_of_ok hget, Reading.bind_of_ok hmodify]
  cases ws with
  | nil => rfl
  | cons w ws =>
      -- a word could be a keyword or an alias; it is neither, so it is taken as it is
      have hkeyword : (if want.keywords = true then
          Keyword.ofText? Keyword.common (.ofList w) else none) = none := by
        split
        · exact htakes.no_keyword ‹_› w rfl
        · rfl
      have halias : c'.alias? (.ofList w) = none := by
        simp [Cursor.alias?, hbefore.inUse_eq, hbefore.aliases_eq]
      have hplain : Word.plainText? [.plain w] = some w := by simp [Word.plainText?]
      dsimp only [firstToken]
      rw [if_neg Bool.false_ne_true, hplain]
      dsimp only
      rw [hkeyword]
      dsimp only
      rw [Reading.bind_of_ok hget, halias, ite_self]
      rfl

/-- The next token is the first of the words that stand before the cursor. -/
theorem token_fresh (want : Wanted) (htakes : Takes want ws) (h : c.Ahead ws)
    (hpushed : c.pushed = false) :
    ∃ c', token readers want c = .ok (firstToken ws, c') ∧
      c'.Behind (firstToken ws) false ws.tail := by
  obtain ⟨c', hread, hc'⟩ := repeatedToken_fresh readers h hpushed
  exact ⟨c', token_of_repeated readers htakes hread hc', hc'⟩

/-- The next token is the one that is to be read once more. -/
theorem token_again (want : Wanted) (htakes : Takes want ws)
    (h : c.Behind (firstToken ws) true rest) :
    ∃ c', token readers want c = .ok (firstToken ws, c') ∧
      c'.Behind (firstToken ws) false rest := by
  obtain ⟨c', hread, hc'⟩ := repeatedToken_again readers h
  exact ⟨c', token_of_repeated readers htakes hread hc', hc'⟩

theorem pushBack_behind {pushed : Bool} (h : c.Behind t pushed rest) :
    ∃ c', pushBack c = .ok ((), c') ∧ c'.Behind t true rest := by
  obtain ⟨text, hbefore, htext⟩ := h.ahead
  exact ⟨_, rfl, ⟨text, hbefore.whatever_read, htext⟩, h.last_eq, rfl⟩

/-- What is read once more can be read once more again. -/
theorem token_pushBack (ws : List (List Char)) (h : c.Behind (firstToken ws) true rest) :
    ∃ c₁ c₂, token readers {} c = .ok (firstToken ws, c₁) ∧ pushBack c₁ = .ok ((), c₂) ∧
      c₂.Behind (firstToken ws) true rest := by
  obtain ⟨c₁, htoken, h₁⟩ := token_again readers {} ⟨rfl, rfl, nofun⟩ h
  obtain ⟨c₂, hpush, h₂⟩ := pushBack_behind h₁
  exact ⟨c₁, c₂, htoken, hpush, h₂⟩

/-! #### Reading a command -/

variable (g : Grammar) {w : List Char}

/-- The words of a command up to the end. -/
theorem simpleParts_ahead (line : Nat) (s : Simple) (hfuel : ws.length < fuel) (h : c.Ahead ws)
    (hpushed : c.pushed = false) :
    ∃ c', simpleParts g line fuel false s c =
        .ok (.simple line s.assigns.reverse (s.words.reverse ++ ws.map ([.plain ·]))
          s.redirects.reverse, c') ∧
      c'.Behind .finish true [] := by
  induction ws generalizing fuel c s with
  | nil =>
      obtain ⟨fuel, rfl⟩ := Nat.exists_eq_add_one_of_ne_zero (Nat.ne_zero_of_lt hfuel)
      obtain ⟨c₁, htoken, h₁⟩ :=
        token_fresh g.scripts { aliases := false } ⟨rfl, rfl, nofun⟩ h hpushed
      obtain ⟨c₂, hpush, h₂⟩ := pushBack_behind h₁
      refine ⟨c₂, ?_, h₂⟩
      rw [simpleParts, Reading.bind_of_ok htoken]
      dsimp only [firstToken]
      rw [Reading.bind_of_ok hpush, List.map_nil, List.append_nil]
      rfl
  | cons w ws ih =>
      obtain ⟨fuel, rfl⟩ := Nat.exists_eq_add_one_of_ne_zero (Nat.ne_zero_of_lt hfuel)
      obtain ⟨c₁, htoken, h₁⟩ :=
        token_fresh g.scripts { aliases := false } ⟨rfl, rfl, nofun⟩ h hpushed
      obtain ⟨c₂, hparts, h₂⟩ := ih { s with words := [.plain w] :: s.words }
        (Nat.lt_of_succ_lt_succ hfuel) h₁.ahead h₁.pushed_eq
      refine ⟨c₂, ?_, h₂⟩
      rw [simpleParts, Reading.bind_of_ok htoken]
      dsimp only [firstToken]
      rw [Bool.false_and, if_neg Bool.false_ne_true, hparts]
      simp

/-- A command whose first word is no assignment is its words. -/
theorem command_again (hw : (nameAndRest? w).isSome = false)
    (h : c.Behind (firstToken (w :: ws)) true ws) :
    ∃ c', command g c = .ok (.simple 1 [] ((w :: ws).map ([.plain ·])) [], c') ∧
      c'.Behind .finish true [] := by
  obtain ⟨c₁, c₂, htoken, hpush, h₂⟩ := token_pushBack g.scripts (w :: ws) h
  obtain ⟨c₃, htoken', h₃⟩ :=
    token_again g.scripts { aliases := true } ⟨rfl, rfl, nofun⟩ h₂
  obtain ⟨text, hbefore, hspaced, hlength⟩ := h₂.ahead
  obtain ⟨limit, hlimit⟩ := exists_tokenLimit_eq
  have hfuel : ws.length < limit :=
    Nat.lt_of_le_of_lt hspaced.length_le (by omega)
  obtain ⟨c₄, hparts, h₄⟩ := simpleParts_ahead g 1
    { words := [[.plain w]] } hfuel h₃.ahead h₃.pushed_eq
  refine ⟨c₄, ?_, h₄⟩
  rw [command, Reading.bind_of_ok (Reading.get_eq c), Reading.bind_of_ok htoken]
  dsimp only [firstToken]
  rw [Reading.bind_of_ok hpush, Reading.bind_of_ok (Reading.get_eq c₂), hbefore.line_eq, hlimit,
    simpleParts, Reading.bind_of_ok htoken']
  dsimp only [firstToken]
  rw [Word.isAssignment, hw, Bool.true_and, if_neg Bool.false_ne_true, hparts]
  rfl

/-- Behind a command there is nothing more of a pipe, a list or a script. -/
theorem pipeRest_end (h : c.Behind .finish true []) :
    ∃ c', pipeRest g tokenLimit c = .ok ([], c') ∧ c'.Behind .finish true [] := by
  obtain ⟨c₁, c₂, htoken, hpush, h₂⟩ := token_pushBack g.scripts [] h
  obtain ⟨limit, hlimit⟩ := exists_tokenLimit_eq
  refine ⟨c₂, ?_, h₂⟩
  rw [hlimit, pipeRest, Reading.bind_of_ok htoken]
  dsimp only [firstToken]
  rw [Reading.bind_of_ok hpush]
  rfl

theorem joints_end (command : Command) (h : c.Behind .finish true []) :
    ∃ c', joints g tokenLimit command c = .ok (command, c') ∧ c'.Behind .finish true [] := by
  obtain ⟨c₁, c₂, htoken, hpush, h₂⟩ := token_pushBack g.scripts [] h
  obtain ⟨limit, hlimit⟩ := exists_tokenLimit_eq
  refine ⟨c₂, ?_, h₂⟩
  rw [hlimit, joints, Reading.bind_of_ok htoken]
  dsimp only [firstToken]
  rw [Reading.bind_of_ok hpush]
  rfl

theorem pipeline_again (hw : (nameAndRest? w).isSome = false)
    (h : c.Behind (firstToken (w :: ws)) true ws) :
    ∃ c', pipeline g c = .ok (.simple 1 [] ((w :: ws).map ([.plain ·])) [], c') ∧
      c'.Behind .finish true [] := by
  obtain ⟨c₁, c₂, htoken, hpush, h₂⟩ := token_pushBack g.scripts (w :: ws) h
  obtain ⟨c₃, hcommand, h₃⟩ := command_again g hw h₂
  obtain ⟨c₄, hrest, h₄⟩ := pipeRest_end g h₃
  refine ⟨c₄, ?_, h₄⟩
  rw [pipeline, Reading.bind_of_ok htoken]
  dsimp only [firstToken]
  rw [Reading.bind_of_ok hpush, pure_bind, Reading.bind_of_ok hcommand, Reading.bind_of_ok hrest]
  rfl

/-- A list at the outside that is one line of words is one command. -/
theorem listFrom_ahead (hkeyword : Keyword.ofText? Keyword.common (.ofList w) = none)
    (hw : (nameAndRest? w).isSome = false) (h : c.Ahead (w :: ws)) (hpushed : c.pushed = false) :
    ∃ c', listFrom g .outside tokenLimit none c =
        .ok (.simple 1 [] ((w :: ws).map ([.plain ·])) [], c') ∧
      c'.Behind .finish true [] := by
  have htakes : Takes commandPlace (w :: ws) := by
    refine ⟨rfl, rfl, fun _ x hx => ?_⟩
    obtain rfl : w = x := by simpa using hx
    exact hkeyword
  obtain ⟨c₁, htoken, h₁⟩ := token_fresh g.scripts commandPlace htakes h hpushed
  obtain ⟨c₂, hpush, h₂⟩ := pushBack_behind h₁
  obtain ⟨c₃, hpipeline, h₃⟩ := pipeline_again g hw h₂
  obtain ⟨c₄, hjoints, h₄⟩ :=
    joints_end g (.simple 1 [] ((w :: ws).map ([.plain ·])) []) h₃
  obtain ⟨c₅, c₆, htoken', hpush', h₆⟩ := token_pushBack g.scripts [] h₄
  obtain ⟨limit, hlimit⟩ := exists_tokenLimit_eq
  refine ⟨c₆, ?_, h₆⟩
  change token g.scripts commandPlace c = .ok (.word [.plain w], c₁) at htoken
  -- at the outside line feeds are not passed over, so this is the place of a command as usual
  have hplace :
      ({ commandPlaceBelow with pastLines := !(ListPlace.outside == .outside) } : Wanted) =
        commandPlace := rfl
  have houtside : (ListPlace.outside == ListPlace.outside) = true := rfl
  rw [hlimit, listFrom]
  dsimp only
  rw [hplace, Reading.bind_of_ok htoken]
  dsimp only
  rw [Reading.bind_of_ok hpush, houtside, Bool.not_true, Bool.false_and, Bool.false_and,
    if_neg Bool.false_ne_true, Reading.bind_of_ok hpipeline, Reading.bind_of_ok hjoints,
    Reading.bind_of_ok htoken']
  dsimp only [firstToken]
  rw [Reading.bind_of_ok hpush']
  rfl

end Reader

/-- A script that is one line of words is one command. -/
theorem Reader.nextCommand_ahead {c : Cursor} {w : List Char} {ws : List (List Char)}
    (hkeyword : Keyword.ofText? Keyword.common (.ofList w) = none)
    (hw : (nameAndRest? w).isSome = false) (h : c.Ahead (w :: ws)) :
    ∃ c', nextCommand c =
      .ok (some (.simple 1 [] ((w :: ws).map ([.plain ·])) [], true), c') := by
  obtain ⟨text, hbefore, htext⟩ := h
  have hstart : Cursor.Ahead { c with pushed := false, owed := [] } (w :: ws) :=
    ⟨text, hbefore.whatever_read, htext⟩
  obtain ⟨c', hlist, hc'⟩ := listFrom_ahead (grammarAt depthLimit) hkeyword hw hstart rfl
  have hmodify : (modify ({ · with pushed := false, owed := [] }) : Reading Unit) c =
    .ok ((), { c with pushed := false, owed := [] }) := rfl
  refine ⟨c', ?_⟩
  rw [nextCommand, Reading.bind_of_ok hmodify, Reading.bind_of_ok hlist,
    Reading.bind_of_ok (Reading.get_eq c'), hc'.last_eq, hc'.pushed_eq]
  rfl

/-! #### Commands of ordinary words -/

/-- What a shell reads where this text begins: one simple command of these words, and no more. -/
def Reads (text : String) (words : List String) : Prop :=
  ∀ c : Cursor, c.Before text.toList → ∃ c', Reader.nextCommand c =
    .ok (some (.simple 1 [] (words.map fun w => [.plain w.toList]) [], true), c')

/-- A text that says what it means without any help: ordinary characters and spaces, not too many
of them, and a first word that is no keyword and no assignment. -/
structure IsOrdinaryCommand (text : String) : Prop where
  ordinary : text.toList.all (fun x => x == ' ' || isOrdinary x) = true
  length_lt : text.toList.length + 1 < Reader.tokenLimit
  begins : ∃ w ∈ (Text.words text).head?, Keyword.ofText? Keyword.common w = none ∧
    (nameAndRest? w.toList).isSome = false

/-- **The words of a command are what the shell reads** of it, if there is nothing in it to expand
or to quote. -/
theorem reads_words {text : String} (h : IsOrdinaryCommand text) :
    Reads text (Text.words text) := by
  obtain ⟨v, hv, hkeyword, hassignment⟩ := h.begins
  have hordinary : ∀ x ∈ text.toList, x = ' ' ∨ isOrdinary x = true := by simpa using h.ordinary
  have hspaced := spaced_wordPieces hordinary
  intro c hc
  cases hpieces : Text.wordPieces text.toList with
  | nil => simp [Text.words, hpieces] at hv
  | cons w ws =>
      obtain rfl : v = .ofList w := by simpa [Text.words, hpieces, eq_comm] using hv
      rw [String.toList_ofList] at hassignment
      obtain ⟨c', hread⟩ := Reader.nextCommand_ahead hkeyword hassignment
        ⟨text.toList, hc, hpieces ▸ hspaced, h.length_lt⟩
      refine ⟨c', hread.trans ?_⟩
      rw [Text.words, hpieces, List.map_map]
      simp

/-- The words of a command are these, and so is what the shell reads of it, if it is ordinary. -/
structure SplitsInto (command : String) (ws : List String) : Prop where
  words_eq : Text.words command = ws
  reads : IsOrdinaryCommand command → Reads command ws

theorem splitsInto_iff {command : String} {ws : List String} :
    SplitsInto command ws ↔ Text.words command = ws :=
  ⟨SplitsInto.words_eq, fun h => ⟨h, fun hordinary => h ▸ reads_words hordinary⟩⟩

end Shell

end Ensemble
