/-!
# Ensemble.Text.Utf8

**UTF-8**, read one byte at a time. Between characters the reader holds nothing; inside one it
holds an `Opening`: how many continuation bytes are owed, the range the next one must lie in, and
the bits so far. The ranges are those of the Unicode standard (its table of well-formed byte
sequences), so no overlong form, no surrogate and nothing above `U+10FFFF` is read.

Bytes that are no part of a character are reported once for each **maximal subpart**: the longest
beginning of a character that the next byte does not continue, or one byte that begins none.
`decode?` refuses them, `decodeLossy` puts `U+FFFD` for each. What a text is written as, it is read
back from (`decode?_encode`).
-/

namespace Ensemble.Text

/-- A sequence of bytes. -/
abbrev Bytes := List UInt8

/-- The byte that ends a line. -/
abbrev lineFeed : UInt8 := 10

namespace Utf8

/-- The UTF-8 bytes of a text. -/
def encode (s : String) : Bytes :=
  s.toList.flatMap String.utf8EncodeChar

/-- A character that has begun: `owed` more bytes, the next one within `low` and `high`, after the
bits of `value`. -/
structure Opening where
  owed : Nat
  low : UInt8
  high : UInt8
  value : Nat
deriving DecidableEq, Repr

/-- What the reader reports on reading a byte: characters, and `none` for bytes that are part of
no character. -/
abbrev Report := List (Option Char)

/-- A byte read between characters. -/
def first (b : UInt8) : Report × Option Opening :=
  if b < 0x80 then ([some (Char.ofNat b.toNat)], none)
  else if b < 0xC2 then ([none], none)
  else if b < 0xE0 then ([], some ⟨1, 0x80, 0xBF, b.toNat - 0xC0⟩)
  else if b = 0xE0 then ([], some ⟨2, 0xA0, 0xBF, 0⟩)
  else if b = 0xED then ([], some ⟨2, 0x80, 0x9F, 0xD⟩)
  else if b < 0xF0 then ([], some ⟨2, 0x80, 0xBF, b.toNat - 0xE0⟩)
  else if b = 0xF0 then ([], some ⟨3, 0x90, 0xBF, 0⟩)
  else if b < 0xF4 then ([], some ⟨3, 0x80, 0xBF, b.toNat - 0xF0⟩)
  else if b = 0xF4 then ([], some ⟨3, 0x80, 0x8F, 4⟩)
  else ([none], none)

/-- A byte that continues the character `o`. -/
def Opening.continue (o : Opening) (b : UInt8) : Report × Option Opening :=
  let value := o.value * 64 + (b.toNat - 0x80)
  if o.owed ≤ 1 then ([some (Char.ofNat value)], none)
  else ([], some ⟨o.owed - 1, 0x80, 0xBF, value⟩)

/-- One byte: a byte that does not continue an open character ends it as ill-formed, and is then
read between characters. -/
def step : Option Opening → UInt8 → Report × Option Opening
  | none, b => first b
  | some o, b =>
    if o.low ≤ b ∧ b ≤ o.high then o.continue b
    else
      let (report, state) := first b
      (none :: report, state)

/-- Everything reported on reading the bytes, from a given state on. -/
def scan : Option Opening → Bytes → Report
  | none, [] => []
  | some _, [] => [none]
  | state, b :: bytes =>
    let (report, state) := step state b
    report ++ scan state bytes

/-- The text of well-formed bytes. -/
def decode? (bytes : Bytes) : Option String :=
  (scan none bytes).mapM id |>.map String.ofList

/-- The text of any bytes, with `U+FFFD` for each maximal ill-formed subpart. -/
def decodeLossy (bytes : Bytes) : String :=
  .ofList ((scan none bytes).map (·.getD '\uFFFD'))

/-- Where the strict reading succeeds, the lossy one gives the same text. -/
theorem decodeLossy_eq_of_decode? {bytes : Bytes} {s : String} (h : decode? bytes = some s) :
    decodeLossy bytes = s := by
  unfold decode? at h
  obtain ⟨cs, hcs, rfl⟩ := Option.map_eq_some_iff.mp h
  unfold decodeLossy
  congr 1
  clear h
  generalize scan none bytes = report at hcs ⊢
  induction report generalizing cs with
  | nil => simpa using hcs
  | cons r rs ih =>
      cases r with
      | none => simp at hcs
      | some c =>
          simp only [List.mapM_cons, id, Option.pure_def, Option.bind_eq_bind, Option.bind_some,
            Option.bind_eq_some_iff, Option.some.injEq] at hcs
          obtain ⟨tail, htail, rfl⟩ := hcs
          simp [ih tail htail]

/-! ### Reading what was written

A character is written as a first byte, which tells how many follow and holds the highest bits, and
continuation bytes of six bits each. Each kind of byte is read back by a lemma of its own, over the
bits `k` that it holds. -/

theorem toNat_ofNat_of_lt {n : Nat} (h : n < 256) : (UInt8.ofNat n).toNat = n := by
  rw [UInt8.toNat_ofNat', Nat.mod_eq_of_lt h]

theorem scan_cons (state : Option Opening) (b : UInt8) (bytes : Bytes) :
    scan state (b :: bytes) = (step state b).1 ++ scan (step state b).2 bytes := by
  cases state <;> rfl

theorem scan_one {k : Nat} (h : k < 0x80) (bytes : Bytes) :
    scan none (.ofNat k :: bytes) = some (Char.ofNat k) :: scan none bytes := by
  have hn := toNat_ofNat_of_lt (n := k) (by omega)
  simp [scan_cons, step, first, UInt8.lt_iff_toNat_lt, hn, h]

theorem scan_two {k : Nat} (hlow : 2 ≤ k) (hhigh : k < 0x20) (bytes : Bytes) :
    scan none (.ofNat (k + 0xC0) :: bytes) = scan (some ⟨1, 0x80, 0xBF, k⟩) bytes := by
  have hn := toNat_ofNat_of_lt (n := k + 0xC0) (by omega)
  simp only [scan_cons, step, first, UInt8.lt_iff_toNat_lt, hn, UInt8.reduceToNat]
  rw [if_neg (by omega), if_neg (by omega), if_pos (by omega), Nat.add_sub_cancel]
  rfl

theorem scan_three {k : Nat} (hhigh : k < 0x10) (bytes : Bytes) :
    scan none (.ofNat (k + 0xE0) :: bytes) =
      scan (some ⟨2, if k = 0 then 0xA0 else 0x80, if k = 0xD then 0x9F else 0xBF, k⟩) bytes := by
  have hn := toNat_ofNat_of_lt (n := k + 0xE0) (by omega)
  simp only [scan_cons, step, first, UInt8.lt_iff_toNat_lt, ← UInt8.toNat_inj, hn,
    UInt8.reduceToNat]
  rw [if_neg (by omega), if_neg (by omega), if_neg (by omega), Nat.add_sub_cancel]
  by_cases hzero : k = 0
  · subst hzero
    rfl
  · by_cases hlast : k = 0xD
    · subst hlast
      rfl
    · rw [if_neg (by omega), if_neg (by omega), if_pos (by omega), if_neg hzero, if_neg hlast]
      rfl

theorem scan_four {k : Nat} (hhigh : k < 5) (bytes : Bytes) :
    scan none (.ofNat (k + 0xF0) :: bytes) =
      scan (some ⟨3, if k = 0 then 0x90 else 0x80, if k = 4 then 0x8F else 0xBF, k⟩) bytes := by
  obtain rfl | rfl | rfl | rfl | rfl : k = 0 ∨ k = 1 ∨ k = 2 ∨ k = 3 ∨ k = 4 := by omega
  all_goals rfl

/-- A byte within the range that is due continues the open character. -/
theorem step_some {o : Opening} {k : Nat} (hlow : o.low.toNat ≤ k + 0x80)
    (hhigh : k + 0x80 ≤ o.high.toNat) :
    step (some o) (.ofNat (k + 0x80)) =
      if o.owed ≤ 1 then ([some (Char.ofNat (o.value * 64 + k))], none)
      else ([], some ⟨o.owed - 1, 0x80, 0xBF, o.value * 64 + k⟩) := by
  have hn : (UInt8.ofNat (k + 0x80)).toNat = k + 0x80 :=
    toNat_ofNat_of_lt (Nat.lt_of_le_of_lt hhigh o.high.toNat_lt)
  simp only [step, Opening.continue, UInt8.le_iff_toNat_le, hn, Nat.add_sub_cancel]
  rw [if_pos ⟨hlow, hhigh⟩]

theorem scan_more {low high : UInt8} {k : Nat} (hlow : low.toNat ≤ k + 0x80)
    (hhigh : k + 0x80 ≤ high.toNat) (owed value : Nat) (bytes : Bytes) :
    scan (some ⟨owed + 2, low, high, value⟩) (.ofNat (k + 0x80) :: bytes) =
      scan (some ⟨owed + 1, 0x80, 0xBF, value * 64 + k⟩) bytes := by
  rw [scan_cons, step_some (o := ⟨_, _, _, _⟩) hlow hhigh, if_neg (by simp)]
  rfl

theorem scan_last {k : Nat} (h : k < 64) (value : Nat) (bytes : Bytes) :
    scan (some ⟨1, 0x80, 0xBF, value⟩) (.ofNat (k + 0x80) :: bytes) =
      some (Char.ofNat (value * 64 + k)) :: scan none bytes := by
  rw [scan_cons, step_some (o := ⟨_, _, _, _⟩) (by simp) (by simp; omega), if_pos (by simp)]
  rfl

/-- The bytes of a character are read as this character. -/
theorem scan_encodeChar (c : Char) (bytes : Bytes) :
    scan none (String.utf8EncodeChar c ++ bytes) = some c :: scan none bytes := by
  have hvalid : c.val.toNat < 0xD800 ∨ 0xDFFF < c.val.toNat ∧ c.val.toNat < 0x110000 := c.valid
  have hc : Char.ofNat c.val.toNat = c := Char.ofNat_toNat c
  unfold String.utf8EncodeChar
  generalize c.val.toNat = v at hvalid hc ⊢
  dsimp only
  split
  · rw [List.singleton_append, scan_one (by omega), hc]
  · split
    · have hbits : v / 64 % 32 * 64 + v % 64 = v := by omega
      simp only [List.cons_append, List.nil_append]
      rw [scan_two (by omega) (by omega), scan_last (by omega), hbits, hc]
    · split
      · have hbits : (v / 4096 % 16 * 64 + v / 64 % 64) * 64 + v % 64 = v := by omega
        have hlow : (if v / 4096 % 16 = 0 then 0xA0 else 0x80 : UInt8).toNat ≤
            v / 64 % 64 + 0x80 := by
          split <;> simp <;> omega
        have hhigh : v / 64 % 64 + 0x80 ≤
            (if v / 4096 % 16 = 0xD then 0x9F else 0xBF : UInt8).toNat := by
          split <;> simp <;> omega
        simp only [List.cons_append, List.nil_append]
        rw [scan_three (by omega), scan_more hlow hhigh, scan_last (by omega), hbits, hc]
      · have hbits : ((v / 262144 % 8 * 64 + v / 4096 % 64) * 64 + v / 64 % 64) * 64 + v % 64 = v := by
          omega
        have hlow : (if v / 262144 % 8 = 0 then 0x90 else 0x80 : UInt8).toNat ≤
            v / 4096 % 64 + 0x80 := by
          split <;> simp <;> omega
        have hhigh : v / 4096 % 64 + 0x80 ≤
            (if v / 262144 % 8 = 4 then 0x8F else 0xBF : UInt8).toNat := by
          split <;> simp <;> omega
        simp only [List.cons_append, List.nil_append]
        rw [scan_four (by omega), scan_more hlow hhigh, scan_more (by simp) (by simp; omega),
          scan_last (by omega), hbits, hc]

theorem scan_encode (cs : List Char) :
    scan none (cs.flatMap String.utf8EncodeChar) = cs.map some := by
  induction cs with
  | nil => rfl
  | cons c cs ih => rw [List.flatMap_cons, scan_encodeChar, ih, List.map_cons]

/-- Every text is read back from its bytes. -/
@[simp] theorem decode?_encode (s : String) : decode? (encode s) = some s := by
  have hall : ∀ cs : List Char, (cs.map some).mapM id = some cs := by
    intro cs
    induction cs with
    | nil => rfl
    | cons c cs ih => simp [ih]
  rw [decode?, encode, scan_encode, hall, Option.map_some, String.ofList_toList]

/-- A byte below 128 is written for one character only. -/
theorem not_mem_encodeChar {b : UInt8} (hb : b.toNat < 128) {c : Char}
    (h : c.val.toNat ≠ b.toNat) : b ∉ String.utf8EncodeChar c := by
  unfold String.utf8EncodeChar
  generalize c.val.toNat = v at h
  dsimp only
  repeat' split
  all_goals
    simp only [List.mem_cons, List.not_mem_nil, or_false, ← UInt8.toNat_inj, UInt8.toNat_ofNat']
    omega

/-- Only a line feed is written with the byte of a line feed. -/
theorem lineFeed_not_mem_encodeChar {c : Char} (h : c ≠ '\n') :
    lineFeed ∉ String.utf8EncodeChar c :=
  not_mem_encodeChar (by decide) fun hv => h (Char.toNat_inj.mp hv)

/-- A text without a character that is written as a byte below 128 is written without that byte. -/
theorem not_mem_encode {b : UInt8} {d : Char} (hb : b.toNat < 128) (hd : d.val.toNat = b.toNat)
    {s : String} (h : d ∉ s.toList) : b ∉ encode s := by
  rw [encode, List.mem_flatMap]
  rintro ⟨c, hc, hmem⟩
  refine not_mem_encodeChar hb (fun hv => h ?_) hmem
  rwa [← Char.toNat_inj.mp (hv.trans hd.symm)]

@[simp] theorem encode_append (s t : String) : encode (s ++ t) = encode s ++ encode t := by
  simp [encode]

end Utf8

end Ensemble.Text
