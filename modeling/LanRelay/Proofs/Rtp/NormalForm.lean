/-
Any packet, written and then read: its normal form.

Writing keeps the first fifteen contributing sources, seven bits of the payload
type, and an extension filled up to whole words. What has been written is read
as the packet with just these changes, and the counts in the header agree with
them, so that the payload begins where it did.

Main statement: `written_packet_is_read_in_normal_form`.
-/
import LanRelay.Proofs.Rtp.Grammar

namespace LanRelay.Rtp

/-- The extension with zeros behind its body up to the next whole word. -/
def Extension.filled (ext : Extension) : Extension :=
  { ext with
    body := ext.body ++ List.replicate ((4 - ext.body.length % 4) % 4) 0 }

/-- What writing keeps of a packet. -/
def Packet.normalForm (packet : Packet) : Packet :=
  { packet with
    contributors := packet.contributors.take 15
    payloadType := UInt8.ofNat (packet.payloadType.toNat % 128)
    ext := packet.ext.map Extension.filled }

open Packet

variable {ext : Extension} {packet : Packet}

/-! The extension. -/

theorem Extension.length_filled (ext : Extension) :
    ext.filled.body.length =
      ext.body.length + (4 - ext.body.length % 4) % 4 := by
  rw [filled, List.length_append, List.length_replicate]

/-- The limit is a whole number of words, so filling up does not exceed it. -/
theorem Extension.canonical_filled (h : ext.body.length ≤ 262140) :
    ext.filled.Canonical where
  whole := by
    rw [length_filled]
    omega
  fits := by
    rw [length_filled]
    omega

theorem Extension.Canonical.filled_eq (h : ext.Canonical) :
    ext.filled = ext := by
  have hwhole := h.whole
  rw [Extension.filled, hwhole]
  simp

/-- A body that is filled up has as many words as it had, and no zeros are
left to write behind it. -/
theorem writeExtension_filled (ext : Extension) :
    writeExtension ext.filled = writeExtension ext := by
  have hwords : extensionWords ext.filled = extensionWords ext := by
    rw [extensionWords, extensionWords, Extension.length_filled]
    omega
  have hnone : 4 * extensionWords ext - ext.filled.body.length = 0 := by
    rw [extensionWords, Extension.length_filled]
    omega
  have hzeros : 4 * extensionWords ext - ext.body.length =
      (4 - ext.body.length % 4) % 4 := by
    rw [extensionWords]
    omega
  rw [writeExtension, writeExtension, hwords, hnone, hzeros,
    List.replicate_zero, List.append_nil]
  simp only [Extension.filled, List.append_assoc]

/-! The packet. -/

theorem Packet.canonical_normalForm
    (h : ∀ ext ∈ packet.ext, ext.body.length ≤ 262140) :
    packet.normalForm.Canonical where
  contributors := by
    rw [normalForm, List.length_take]
    omega
  payloadType := by
    rw [normalForm, UInt8.toNat_ofNat']
    omega
  ext := by
    intro filled hfilled
    obtain ⟨ext, hext, rfl⟩ := Option.map_eq_some_iff.mp hfilled
    exact Extension.canonical_filled (h ext hext)

theorem Packet.Canonical.normalForm_eq (h : packet.Canonical) :
    packet.normalForm = packet := by
  have hcontributors : packet.contributors.take 15 = packet.contributors :=
    List.take_of_length_le h.contributors
  have htype : UInt8.ofNat (packet.payloadType.toNat % 128) =
      packet.payloadType := by
    rw [Nat.mod_eq_of_lt h.payloadType, UInt8.ofNat_toNat]
  have hext : packet.ext.map Extension.filled = packet.ext := by
    cases hpresent : packet.ext with
    | none => rfl
    | some ext => rw [Option.map_some, (h.ext ext hpresent).filled_eq]
  rw [Packet.normalForm, hcontributors, htype, hext]

/-- The canonical packets are those that writing leaves as they are. -/
theorem Packet.normalForm_eq_self_iff
    (h : ∀ ext ∈ packet.ext, ext.body.length ≤ 262140) :
    packet.normalForm = packet ↔ packet.Canonical :=
  ⟨fun heq => heq ▸ canonical_normalForm h, Packet.Canonical.normalForm_eq⟩

/-- All that the header counts is the same before and after. -/
theorem Packet.marshal_normalForm (packet : Packet) :
    packet.normalForm.marshal = packet.marshal := by
  have htype : (UInt8.ofNat (packet.payloadType.toNat % 128)).toNat % 128 =
      packet.payloadType.toNat % 128 := by
    rw [UInt8.toNat_ofNat']
    omega
  have hpresent : packet.normalForm.ext.isSome = packet.ext.isSome := by
    rw [normalForm, Option.isSome_map]
  have hext : packet.normalForm.ext.map writeExtension =
      packet.ext.map writeExtension := by
    rw [normalForm, Option.map_map]
    exact congrArg (packet.ext.map ·) (funext writeExtension_filled)
  have hcontributors : packet.normalForm.contributors.take maxContributors =
      packet.contributors.take maxContributors := by
    rw [normalForm, maxContributors, List.take_take, Nat.min_self]
  rw [marshal, marshal, hpresent, hext, hcontributors]
  simp only [normalForm, htype]
  rfl

theorem Packet.parse_marshal
    (h : ∀ ext ∈ packet.ext, ext.body.length ≤ 262140) :
    parse packet.marshal = .ok packet.normalForm := by
  rw [← marshal_normalForm, parse_eq_ok_iff, read_eq_ok_iff]
  exact ⟨canonical_normalForm h, Or.inl rfl⟩

/-- What is written for a packet is read as its normal form, whatever the
packet is, if its extension has at most as many words as sixteen bits count;
and the normal form is written as the same bytes. The packets that come back as
they were are the canonical ones. -/
theorem written_packet_is_read_in_normal_form (packet : Packet)
    (hfits : ∀ ext ∈ packet.ext, ext.body.length ≤ 262140) :
    Packet.parse packet.marshal = .ok packet.normalForm ∧
      packet.normalForm.marshal = packet.marshal ∧
      (packet.normalForm = packet ↔ packet.Canonical) :=
  ⟨Packet.parse_marshal hfits, packet.marshal_normalForm,
    Packet.normalForm_eq_self_iff hfits⟩

/-- Seventeen contributing sources, a payload type of eight bits, an extension
of five bytes, and a payload that ends like padding. -/
def crowdedPacket : Packet where
  marker := true
  payloadType := 224
  sequence := 1
  timestamp := 2
  ssrc := 3
  contributors := (List.range 17).map UInt32.ofNat
  ext := some ⟨0xbede, [1, 2, 3, 4, 5]⟩
  payload := [9, 0, 2]

theorem written_packet_is_read_in_normal_form_of_crowded :
    (∀ ext ∈ crowdedPacket.ext, ext.body.length ≤ 262140) ∧
      Packet.parse crowdedPacket.marshal = .ok { crowdedPacket with
        contributors := (List.range 15).map UInt32.ofNat
        payloadType := 96
        ext := some ⟨0xbede, [1, 2, 3, 4, 5, 0, 0, 0]⟩ } ∧
      ¬ crowdedPacket.Canonical := by
  have hfits : ∀ ext ∈ crowdedPacket.ext, ext.body.length ≤ 262140 := by
    decide
  obtain ⟨hparse, -, hcanonical⟩ :=
    written_packet_is_read_in_normal_form crowdedPacket hfits
  refine ⟨hfits, hparse, fun h => ?_⟩
  have hchanged : crowdedPacket.normalForm ≠ crowdedPacket := by decide
  exact hchanged (hcanonical.mpr h)

end LanRelay.Rtp
