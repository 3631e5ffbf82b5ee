/-
Byte sequences, the big-endian words inside them, and the texts they spell.

Main statements: a word is read back from its bytes, and a text is read back
from its UTF-8 bytes.
-/
namespace LanRelay

/-- A finite sequence of bytes, the first byte at the head. -/
abbrev Bytes := List UInt8

namespace Bytes

/-- The UTF-8 bytes of a text. -/
def ofText (text : String) : Bytes := text.toUTF8.data.toList

/-- The text that the bytes spell, if they are well-formed UTF-8. -/
def toText? (bytes : Bytes) : Option String :=
  String.fromUTF8? ⟨bytes.toArray⟩

theorem toText?_ofText (text : String) : toText? (ofText text) = some text := by
  have hbytes : (⟨(ofText text).toArray⟩ : ByteArray) = text.toUTF8 := by
    simp [ofText]
  rw [toText?, hbytes, String.fromUTF8?, String.toUTF8_eq_toByteArray,
    dif_pos text.isValidUTF8]
  rfl

theorem ofText_of_toText? {bytes : Bytes} {text : String}
    (h : toText? bytes = some text) : ofText text = bytes := by
  simp only [toText?, String.fromUTF8?] at h
  split at h
  · cases h
    simp [ofText, String.fromUTF8, String.toUTF8]
  · cases h

end Bytes

/-- The 16-bit word with the given high and low byte. -/
def word16 (high low : UInt8) : UInt16 :=
  UInt16.ofNat (256 * high.toNat + low.toNat)

/-- The 32-bit word with the given four bytes, highest first. -/
def word32 (b₃ b₂ b₁ b₀ : UInt8) : UInt32 :=
  UInt32.ofNat (256 * (256 * (256 * b₃.toNat + b₂.toNat) + b₁.toNat) + b₀.toNat)

/-- The two bytes of a 16-bit word, highest first. -/
def bytes16 (word : UInt16) : Bytes :=
  [UInt8.ofNat (word.toNat / 256), UInt8.ofNat word.toNat]

/-- The four bytes of a 32-bit word, highest first. -/
def bytes32 (word : UInt32) : Bytes :=
  [UInt8.ofNat (word.toNat / 16777216), UInt8.ofNat (word.toNat / 65536),
    UInt8.ofNat (word.toNat / 256), UInt8.ofNat word.toNat]

theorem bytes16_word16 (high low : UInt8) :
    bytes16 (word16 high low) = [high, low] := by
  have hhigh := high.toNat_lt
  have hlow := low.toNat_lt
  simp only [bytes16, word16, UInt16.toNat_ofNat']
  rw [Nat.mod_eq_of_lt (by omega)]
  refine List.cons_eq_cons.mpr ⟨?_, List.cons_eq_cons.mpr ⟨?_, rfl⟩⟩
  · apply UInt8.toNat_inj.mp
    simp only [UInt8.toNat_ofNat']
    omega
  · apply UInt8.toNat_inj.mp
    simp only [UInt8.toNat_ofNat']
    omega

theorem word16_bytes16 (word : UInt16) :
    ∃ high low, bytes16 word = [high, low] ∧ word16 high low = word := by
  refine ⟨_, _, rfl, ?_⟩
  have hword := word.toNat_lt
  apply UInt16.toNat_inj.mp
  simp only [word16, UInt16.toNat_ofNat', UInt8.toNat_ofNat']
  omega

theorem bytes32_word32 (b₃ b₂ b₁ b₀ : UInt8) :
    bytes32 (word32 b₃ b₂ b₁ b₀) = [b₃, b₂, b₁, b₀] := by
  have h₃ := b₃.toNat_lt
  have h₂ := b₂.toNat_lt
  have h₁ := b₁.toNat_lt
  have h₀ := b₀.toNat_lt
  simp only [bytes32, word32, UInt32.toNat_ofNat']
  rw [Nat.mod_eq_of_lt (by omega)]
  refine List.cons_eq_cons.mpr ⟨?_, List.cons_eq_cons.mpr ⟨?_,
    List.cons_eq_cons.mpr ⟨?_, List.cons_eq_cons.mpr ⟨?_, rfl⟩⟩⟩⟩ <;>
  · apply UInt8.toNat_inj.mp
    simp only [UInt8.toNat_ofNat']
    omega

theorem word32_bytes32 (word : UInt32) :
    ∃ b₃ b₂ b₁ b₀, bytes32 word = [b₃, b₂, b₁, b₀] ∧
      word32 b₃ b₂ b₁ b₀ = word := by
  refine ⟨_, _, _, _, rfl, ?_⟩
  have hword := word.toNat_lt
  apply UInt32.toNat_inj.mp
  simp only [word32, UInt32.toNat_ofNat', UInt8.toNat_ofNat']
  omega

end LanRelay
