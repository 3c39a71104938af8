import Ensemble.Text.Utf8

/-!
# Ensemble.Text.Octets

**Octets**: bytes written as characters, one character below `U+0100` for each byte. A shell works
on bytes, but all that has a meaning to it is ASCII; as octets its source, its words and its files
can be read and compared as text.
-/

namespace Ensemble.Text.Octets

/-- The octets of bytes. -/
def ofBytes (bytes : Bytes) : String :=
  .ofList (bytes.map fun b => Char.ofNat b.toNat)

/-- The bytes of octets. -/
def toBytes (s : String) : Bytes :=
  s.toList.map fun c => UInt8.ofNat c.toNat

/-- The octets of a text's encoding. -/
def ofText (s : String) : String :=
  ofBytes (Utf8.encode s)

/-- The text of octets, as far as they are well-formed. -/
def toText (s : String) : String :=
  Utf8.decodeLossy (toBytes s)

/-- A byte is read back from its octet. -/
theorem toNat_octet (b : UInt8) : (Char.ofNat b.toNat).toNat = b.toNat := by
  have hb : b.toNat.isValidChar := Or.inl (by have := b.toNat_lt; omega)
  unfold Char.ofNat
  rw [dif_pos hb]
  unfold Char.ofNatAux Char.toNat
  simp

/-- Every byte has its own octet. -/
theorem toBytes_ofBytes (bytes : Bytes) : toBytes (ofBytes bytes) = bytes := by
  simp [toBytes, ofBytes, List.map_map, Function.comp_def, toNat_octet]

end Ensemble.Text.Octets
