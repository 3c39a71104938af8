import Ensemble.Text.Utf8

/-!
# Ensemble.Proofs.Encoding

**Bytes that are text.** The strict reading of bytes accepts what a text is written as and nothing
else (`decode?_eq_some_iff`), so a text has one encoding only and well-formed bytes can be treated
as the text they encode.

What a text is written as, it is read back from, stands beside the reader. Here is the converse. It
goes by the kind of the first byte: a byte that opens a character fixes how many continuation bytes
follow, each of them is found in turn (`continued`), and the bits collected on the way are those of
a character that is written with these very bytes.
-/

namespace Ensemble.Text.Utf8

theorem toNat_charOfNat {n : Nat} (h : n.isValidChar) : (Char.ofNat n).val.toNat = n := by
  unfold Char.ofNat
  rw [dif_pos h]
  unfold Char.ofNatAux
  simp

/-! ### Characters by the bits of their bytes -/

theorem encodeChar_one {k : Nat} (h : k < 0x80) :
    String.utf8EncodeChar (Char.ofNat k) = [.ofNat k] := by
  have hv : (Char.ofNat k).val.toNat = k := toNat_charOfNat (.inl (by omega))
  unfold String.utf8EncodeChar
  rw [hv]
  exact if_pos (by omega)

theorem encodeChar_two {k l : Nat} (hlow : 2 ≤ k) (hk : k < 0x20) (hl : l < 64) :
    String.utf8EncodeChar (Char.ofNat (k * 64 + l)) = [.ofNat (k + 0xC0), .ofNat (l + 0x80)] := by
  have hv : (Char.ofNat (k * 64 + l)).val.toNat = k * 64 + l :=
    toNat_charOfNat (.inl (by omega))
  have hfirst : (k * 64 + l) / 64 % 32 = k := by omega
  have hsecond : (k * 64 + l) % 64 = l := by omega
  unfold String.utf8EncodeChar
  rw [hv]
  dsimp only
  rw [if_neg (by omega), if_pos (by omega), hfirst, hsecond]

theorem encodeChar_three {k l m : Nat} (hk : k < 0x10) (hl : l < 64) (hm : m < 64)
    (hlow : k = 0 → 0x20 ≤ l) (hhigh : k = 0xD → l < 0x20) :
    String.utf8EncodeChar (Char.ofNat ((k * 64 + l) * 64 + m)) =
      [.ofNat (k + 0xE0), .ofNat (l + 0x80), .ofNat (m + 0x80)] := by
  have hvalid : ((k * 64 + l) * 64 + m).isValidChar := by
    unfold Nat.isValidChar
    omega
  have hv := toNat_charOfNat hvalid
  have hfirst : ((k * 64 + l) * 64 + m) / 4096 % 16 = k := by omega
  have hsecond : ((k * 64 + l) * 64 + m) / 64 % 64 = l := by omega
  have hthird : ((k * 64 + l) * 64 + m) % 64 = m := by omega
  unfold String.utf8EncodeChar
  rw [hv]
  dsimp only
  rw [if_neg (by omega), if_neg (by omega), if_pos (by omega), hfirst, hsecond, hthird]

theorem encodeChar_four {k l m n : Nat} (hk : k < 5) (hl : l < 64) (hm : m < 64) (hn : n < 64)
    (hlow : k = 0 → 0x10 ≤ l) (hhigh : k = 4 → l < 0x10) :
    String.utf8EncodeChar (Char.ofNat (((k * 64 + l) * 64 + m) * 64 + n)) =
      [.ofNat (k + 0xF0), .ofNat (l + 0x80), .ofNat (m + 0x80), .ofNat (n + 0x80)] := by
  have hvalid : (((k * 64 + l) * 64 + m) * 64 + n).isValidChar := by
    unfold Nat.isValidChar
    omega
  have hv := toNat_charOfNat hvalid
  have hfirst : (((k * 64 + l) * 64 + m) * 64 + n) / 262144 % 8 = k := by omega
  have hsecond : (((k * 64 + l) * 64 + m) * 64 + n) / 4096 % 64 = l := by omega
  have hthird : (((k * 64 + l) * 64 + m) * 64 + n) / 64 % 64 = m := by omega
  have hfourth : (((k * 64 + l) * 64 + m) * 64 + n) % 64 = n := by omega
  unfold String.utf8EncodeChar
  rw [hv]
  dsimp only
  rw [if_neg (by omega), if_neg (by omega), if_neg (by omega), hfirst, hsecond, hthird, hfourth]

/-! ### What an accepted byte can be -/

theorem exists_ofNat (b : UInt8) : ∃ n < 256, b = .ofNat n :=
  ⟨b.toNat, b.toNat_lt, by simp⟩

/-- A byte that can stand neither alone nor first is reported. -/
theorem first_of_stray {n : Nat} (hn : n < 256) (h : 0x80 ≤ n ∧ n < 0xC2 ∨ 0xF5 ≤ n) :
    first (.ofNat n) = ([none], none) := by
  have hv := toNat_ofNat_of_lt hn
  simp only [first, UInt8.lt_iff_toNat_lt, ← UInt8.toNat_inj, hv, UInt8.reduceToNat]
  rcases h with ⟨hlow, hhigh⟩ | hlow
  · rw [if_neg (by omega), if_pos hhigh]
  · rw [if_neg (by omega), if_neg (by omega), if_neg (by omega), if_neg (by omega),
      if_neg (by omega), if_neg (by omega), if_neg (by omega), if_neg (by omega),
      if_neg (by omega)]

/-- Where nothing is reported as ill-formed, an open character is continued within its range. -/
theorem continued {low high : UInt8} {owed value : Nat} {bytes : Bytes} {cs : List Char}
    (hrange : 0x80 ≤ low.toNat) (h : scan (some ⟨owed, low, high, value⟩) bytes = cs.map some) :
    ∃ k rest, bytes = .ofNat (k + 0x80) :: rest ∧ low.toNat ≤ k + 0x80 ∧ k + 0x80 ≤ high.toNat := by
  cases bytes with
  | nil => cases cs <;> simp [scan] at h
  | cons b rest =>
      rw [scan_cons] at h
      by_cases hb : low ≤ b ∧ b ≤ high
      · obtain ⟨hlow, hhigh⟩ := hb
        rw [UInt8.le_iff_toNat_le] at hlow hhigh
        have hsum : b.toNat - 0x80 + 0x80 = b.toNat := by omega
        exact ⟨b.toNat - 0x80, rest, by rw [hsum]; simp, by omega, by omega⟩
      · -- The report on such a byte begins with the ill-formed character.
        simp only [step, if_neg hb] at h
        cases cs <;> simp at h

theorem continued_last {value : Nat} {bytes : Bytes} {cs : List Char}
    (h : scan (some ⟨1, 0x80, 0xBF, value⟩) bytes = cs.map some) :
    ∃ k rest cs', k < 64 ∧ bytes = .ofNat (k + 0x80) :: rest ∧
      cs = Char.ofNat (value * 64 + k) :: cs' ∧ scan none rest = cs'.map some := by
  obtain ⟨k, rest, rfl, -, hhigh⟩ := continued (by decide) h
  have hk : k < 64 := by
    simp only [UInt8.reduceToNat] at hhigh
    omega
  rw [scan_last hk] at h
  obtain ⟨c, cs', rfl, hc, hrest⟩ := List.map_eq_cons_iff.mp h.symm
  obtain rfl := Option.some.inj hc
  exact ⟨k, rest, cs', hk, rfl, rfl, hrest.symm⟩

theorem continued_more {low high : UInt8} {owed value : Nat} {bytes : Bytes} {cs : List Char}
    (hrange : 0x80 ≤ low.toNat)
    (h : scan (some ⟨owed + 2, low, high, value⟩) bytes = cs.map some) :
    ∃ k rest, low.toNat ≤ k + 0x80 ∧ k + 0x80 ≤ high.toNat ∧ bytes = .ofNat (k + 0x80) :: rest ∧
      scan (some ⟨owed + 1, 0x80, 0xBF, value * 64 + k⟩) rest = cs.map some := by
  obtain ⟨k, rest, rfl, hlow, hhigh⟩ := continued hrange h
  rw [scan_more hlow hhigh] at h
  exact ⟨k, rest, hlow, hhigh, rfl, h⟩

/-- An accepted sequence of bytes is empty, or it is a character's bytes with an accepted sequence
behind them. -/
theorem begins_with_char {bytes : Bytes} {cs : List Char} (h : scan none bytes = cs.map some)
    (hne : bytes ≠ []) :
    ∃ c cs' rest, cs = c :: cs' ∧ bytes = String.utf8EncodeChar c ++ rest ∧
      scan none rest = cs'.map some := by
  obtain ⟨b, rest, rfl⟩ := List.exists_cons_of_ne_nil hne
  obtain ⟨n, hn, rfl⟩ := exists_ofNat b
  by_cases hone : n < 0x80
  · rw [scan_one hone] at h
    obtain ⟨c, cs', rfl, hc, hrest⟩ := List.map_eq_cons_iff.mp h.symm
    obtain rfl := Option.some.inj hc
    exact ⟨_, cs', rest, rfl, by rw [encodeChar_one hone]; rfl, hrest.symm⟩
  by_cases hstray : n < 0xC2 ∨ 0xF5 ≤ n
  · rw [scan_cons, step, first_of_stray hn (by omega)] at h
    cases cs <;> simp at h
  by_cases htwo : n < 0xE0
  · obtain ⟨k, rfl⟩ : ∃ k, n = k + 0xC0 := ⟨n - 0xC0, by omega⟩
    rw [scan_two (by omega) (by omega)] at h
    obtain ⟨l, rest, cs', hl, rfl, rfl, hrest⟩ := continued_last h
    exact ⟨_, cs', rest, rfl, by rw [encodeChar_two (by omega) (by omega) hl]; rfl, hrest⟩
  by_cases hthree : n < 0xF0
  · obtain ⟨k, rfl⟩ : ∃ k, n = k + 0xE0 := ⟨n - 0xE0, by omega⟩
    rw [scan_three (by omega)] at h
    obtain ⟨l, behind, hlow, hhigh, rfl, hbehind⟩ := continued_more (by split <;> decide) h
    obtain ⟨m, rest, cs', hm, rfl, rfl, hrest⟩ := continued_last hbehind
    have hl : l < 64 ∧ (k = 0 → 0x20 ≤ l) ∧ (k = 0xD → l < 0x20) := by
      split at hlow <;> split at hhigh <;> simp at hlow hhigh <;> omega
    refine ⟨_, cs', rest, rfl, ?_, hrest⟩
    rw [encodeChar_three (by omega) hl.1 hm hl.2.1 hl.2.2]
    rfl
  · obtain ⟨k, rfl⟩ : ∃ k, n = k + 0xF0 := ⟨n - 0xF0, by omega⟩
    rw [scan_four (by omega)] at h
    obtain ⟨l, behind, hlow, hhigh, rfl, hbehind⟩ := continued_more (by split <;> decide) h
    obtain ⟨m, last, -, hm, rfl, hlast⟩ := continued_more (by decide) hbehind
    obtain ⟨o, rest, cs', ho, rfl, rfl, hrest⟩ := continued_last hlast
    have hm : m < 64 := by
      simp only [UInt8.reduceToNat] at hm
      omega
    have hl : l < 64 ∧ (k = 0 → 0x10 ≤ l) ∧ (k = 4 → l < 0x10) := by
      split at hlow <;> split at hhigh <;> simp at hlow hhigh <;> omega
    refine ⟨_, cs', rest, rfl, ?_, hrest⟩
    rw [encodeChar_four (by omega) hl.1 hm ho hl.2.1 hl.2.2]
    rfl

/-! ### The whole sequence -/

theorem eq_flatMap_of_scan {bytes : Bytes} {cs : List Char} (h : scan none bytes = cs.map some) :
    bytes = cs.flatMap String.utf8EncodeChar := by
  -- By induction on the characters: each takes its bytes from the front.
  induction cs generalizing bytes with
  | nil =>
      cases bytes with
      | nil => rfl
      | cons b bytes =>
          obtain ⟨c, cs', _, hcs, -⟩ := begins_with_char h (List.cons_ne_nil b bytes)
          cases hcs
  | cons c cs ih =>
      have hne : bytes ≠ [] := by
        rintro rfl
        simp [scan] at h
      obtain ⟨_, _, rest, heq, rfl, hrest⟩ := begins_with_char h hne
      obtain ⟨rfl, rfl⟩ := List.cons.inj heq
      rw [ih hrest, List.flatMap_cons]

/-- What is collected from a report in which nothing is ill-formed. -/
theorem mapM_id_eq_some_iff {report : Report} {cs : List Char} :
    report.mapM id = some cs ↔ report = cs.map some := by
  induction report generalizing cs with
  | nil => cases cs <;> simp
  | cons r report ih =>
      cases r with
      | none => cases cs <;> simp
      | some c =>
          cases cs with
          | nil => simp [Option.bind_eq_some_iff]
          | cons c' cs =>
              simp only [List.mapM_cons, id, Option.bind_eq_bind, Option.bind_some,
                Option.bind_eq_some_iff, Option.pure_def, Option.some.injEq, List.cons.injEq,
                List.map_cons, ← ih]
              constructor
              · rintro ⟨_, hcs, rfl, rfl⟩
                exact ⟨rfl, hcs⟩
              · rintro ⟨rfl, hcs⟩
                exact ⟨cs, hcs, rfl, rfl⟩

/-- **The strict reading accepts encodings and nothing else.** -/
theorem decode?_eq_some_iff {bytes : Bytes} {s : String} :
    decode? bytes = some s ↔ bytes = encode s := by
  constructor
  · intro h
    obtain ⟨cs, hcs, rfl⟩ := Option.map_eq_some_iff.mp h
    rw [encode, String.toList_ofList]
    exact eq_flatMap_of_scan (mapM_id_eq_some_iff.mp hcs)
  · rintro rfl
    exact decode?_encode s

/-- Encodings one behind the other encode a text. -/
theorem exists_encode_flatten {pieces : List Bytes} (h : ∀ piece ∈ pieces, ∃ s, piece = encode s) :
    ∃ s, pieces.flatten = encode s := by
  induction pieces with
  | nil => exact ⟨"", rfl⟩
  | cons piece pieces ih =>
      obtain ⟨⟨s, rfl⟩, hpieces⟩ := List.forall_mem_cons.mp h
      obtain ⟨t, ht⟩ := ih hpieces
      exact ⟨s ++ t, by rw [List.flatten_cons, ht, encode_append]⟩

end Ensemble.Text.Utf8
