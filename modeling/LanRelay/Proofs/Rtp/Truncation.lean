/-
Packets that are cut off.

Of a long datagram only the front is seen. Nothing in a packet says where its
payload ends, so the front is a packet with a shorter payload, unless the
header is cut off too, or the byte at the cut is no count of padding where the
first byte says that there is padding.

Main statements: `malformed_take_iff`, `read_take` and `Intake.receive_long`.
-/
import LanRelay.Flow.Intake
import LanRelay.Proofs.Rtp.Grammar

namespace LanRelay.Rtp

/-! What of a datagram is seen. -/

variable {bytes : Bytes} {n : Nat}

theorem headD_take (h : 0 < n) (bytes : Bytes) :
    (bytes.take n).headD 0 = bytes.headD 0 := by
  rw [List.headD_eq_head?_getD, List.headD_eq_head?_getD, List.head?_take,
    if_neg (by omega)]

theorem getD_take {i : Nat} (h : i < n) (bytes : Bytes) :
    (bytes.take n).getD i 0 = bytes.getD i 0 := by
  rw [List.getD_eq_getElem?_getD, List.getD_eq_getElem?_getD,
    List.getElem?_take_of_lt h]

theorem getLastD_take (hpositive : 0 < n) (h : n ≤ bytes.length) :
    (bytes.take n).getLastD 0 = bytes.getD (n - 1) 0 := by
  rw [List.getLastD_eq_getLast?, List.getLast?_eq_getElem?, List.length_take,
    Nat.min_eq_left h, List.getElem?_take_of_lt (by omega),
    List.getD_eq_getElem?_getD]

/-- Where the payload begins is said in the first 76 bytes. -/
theorem payloadStart_take (h : 76 ≤ n) (bytes : Bytes) :
    payloadStart (bytes.take n) = payloadStart bytes := by
  have hhead := headD_take (show 0 < n by omega) bytes
  have hcount : contributorCount (bytes.take n) = contributorCount bytes := by
    rw [contributorCount, hhead, contributorCount]
  have hfew : contributorCount bytes < 16 := Nat.mod_lt _ (by decide)
  simp only [payloadStart, hhead, hcount]
  rw [getD_take (by omega), getD_take (by omega)]

/-- What can be wrong with the front of a datagram that is longer. -/
inductive CutMalformed (bytes : Bytes) : Prop where
  | version (h : (bytes.headD 0).toNat / 64 ≠ 2)
  /-- The header is cut off. -/
  | header (h : maxPacket < payloadStart bytes)
  | emptyPadding (hpadded : (bytes.headD 0).toNat / 32 % 2 = 1)
      (h : bytes.getD (maxPacket - 1) 0 = 0)
  | padding (hpadded : (bytes.headD 0).toNat / 32 % 2 = 1)
      (h : maxPacket <
        payloadStart bytes + (bytes.getD (maxPacket - 1) 0).toNat)

theorem malformed_take_iff (hlong : maxPacket < bytes.length) :
    Malformed (bytes.take maxPacket) ↔ CutMalformed bytes := by
  have hlength : (bytes.take maxPacket).length = maxPacket := by
    rw [List.length_take]
    omega
  have hhead := headD_take (show 0 < maxPacket by decide) bytes
  have hstart := payloadStart_take (show 76 ≤ maxPacket by decide) bytes
  have hlast := getLastD_take (show 0 < maxPacket by decide)
    (show maxPacket ≤ bytes.length by omega)
  constructor
  · intro h
    cases h with
    | short h =>
        rw [hlength] at h
        exact absurd h (by decide)
    | version h => exact .version (hhead ▸ h)
    | contributors h =>
        have hfew : contributorCount (bytes.take maxPacket) < 16 :=
          Nat.mod_lt _ (by decide)
        have hroom : 72 ≤ maxPacket := by decide
        rw [hlength] at h
        omega
    | ext h =>
        rw [hlength, hstart] at h
        exact .header h
    | emptyPadding hpadded h =>
        exact .emptyPadding (hhead ▸ hpadded) (hlast ▸ h)
    | padding hpadded h =>
        rw [hlength, hstart, hlast] at h
        exact .padding (hhead ▸ hpadded) h
  · intro h
    cases h with
    | version h => exact .version (hhead ▸ h)
    | header h => exact .ext (by rwa [hlength, hstart])
    | emptyPadding hpadded h =>
        exact .emptyPadding (hhead ▸ hpadded) (hlast ▸ h)
    | padding hpadded h =>
        exact .padding (hhead ▸ hpadded) (by rwa [hlength, hstart, hlast])

/-! An unpadded packet is cut off in its payload. -/

/-- The packet with no more than so many bytes of its payload. -/
def Packet.cutTo (packet : Packet) (room : Nat) : Packet :=
  { packet with payload := packet.payload.take room }

theorem Packet.Canonical.cutTo {packet : Packet} (h : packet.Canonical)
    (room : Nat) : (packet.cutTo room).Canonical :=
  ⟨h.contributors, h.payloadType, h.ext⟩

/-- The payload stands at the end of a packet. -/
theorem Packet.exists_marshal_eq {packet : Packet} (h : packet.Canonical) :
    ∃ header, header.length = payloadStart packet.marshal ∧
      packet.marshal = header ++ packet.payload ∧
      ∀ room, (packet.cutTo room).marshal =
        header ++ packet.payload.take room := by
  have hstart := payloadStart_of_canonical h false []
  rw [List.append_nil, ← marshal_eq_cons h.contributors] at hstart
  refine ⟨packet.firstByte false :: (packet.fields ++
    (packet.contributors.flatMap bytes32 ++
      (packet.ext.map writeExtension).getD [])), ?_, ?_, fun room => ?_⟩
  · have hfields : packet.fields.length = 11 := rfl
    simp only [Packet.body, List.length_append] at hstart
    simp only [List.length_cons, List.length_append, hfields]
    omega
  · rw [marshal_eq_cons h.contributors]
    simp only [Packet.body, List.cons_append, List.append_assoc]
  · rw [marshal_eq_cons (h.cutTo room).contributors]
    simp only [Packet.body, List.cons_append, List.append_assoc]
    rfl

/-- The front of an unpadded packet is the packet with a shorter payload, if
the header is not cut off. -/
theorem read_take {packet : Packet} (hread : Packet.read bytes = .ok packet)
    (hclear : (bytes.headD 0).toNat / 32 % 2 = 0)
    (hheader : payloadStart bytes ≤ n) :
    Packet.read (bytes.take n) =
      .ok (packet.cutTo (n - payloadStart bytes)) := by
  obtain ⟨hcanonical, rfl⟩ := read_unpadded_iff.mp ⟨hread, hclear⟩
  obtain ⟨header, hlength, hmarshal, hcut⟩ :=
    Packet.exists_marshal_eq hcanonical
  have htake : packet.marshal.take n =
      (packet.cutTo (n - payloadStart packet.marshal)).marshal := by
    rw [hcut, ← hlength]
    conv_lhs => rw [hmarshal]
    rw [List.take_append, List.take_of_length_le (by omega)]
  rw [htake]
  exact (read_unpadded_iff.mpr ⟨hcanonical.cutTo _, rfl⟩).1

/-- What is cut off is missing from the payload. -/
theorem length_payload_cutTo_lt {packet : Packet}
    (hread : Packet.read bytes = .ok packet)
    (hclear : (bytes.headD 0).toNat / 32 % 2 = 0)
    (hheader : payloadStart bytes ≤ n) (hlong : n < bytes.length) :
    (packet.cutTo (n - payloadStart bytes)).payload.length <
      packet.payload.length := by
  obtain ⟨hcanonical, rfl⟩ := read_unpadded_iff.mp ⟨hread, hclear⟩
  obtain ⟨header, hlength, hmarshal, -⟩ := Packet.exists_marshal_eq hcanonical
  have hsize := congrArg List.length hmarshal
  rw [List.length_append] at hsize
  rw [Packet.cutTo, List.length_take]
  omega

end LanRelay.Rtp

namespace LanRelay.Intake

open LanRelay.Rtp

/-- A datagram was counted as malformed, and nothing was queued for it. -/
structure Refused (intake later : Intake) : Prop where
  packets : later.packets = intake.packets
  events : later.events = intake.events
  received : later.metrics.received = intake.metrics.received + 1
  malformed : later.metrics.malformed = intake.metrics.malformed + 1

/-- A datagram was taken for a packet, which was offered to the queue. -/
structure Accepted (packet : Packet) (intake later : Intake) : Prop where
  packets : later.packets = (intake.packets.offer intake.policy packet).1
  events : later.events = intake.events
  received : later.metrics.received = intake.metrics.received + 1
  malformed : later.metrics.malformed = intake.metrics.malformed

variable {intake : Intake} {ssrc : UInt32} {datagram : Bytes}

theorem accepted_receive {packet : Packet}
    (h : Packet.read (datagram.take maxPacket) = .ok packet) :
    Accepted (packet.withSsrc ssrc) intake
      (intake.receive ssrc datagram).1 := by
  rcases hoffer : intake.packets.offer intake.policy (packet.withSsrc ssrc) with
    ⟨packets, outcome⟩
  simp only [receive, parse_eq_ok_iff.mpr h, offerPacket, hoffer]
  cases outcome <;> exact ⟨by rw [hoffer], rfl, rfl, rfl⟩

theorem refused_receive (h : Malformed (datagram.take maxPacket)) :
    Refused intake (intake.receive ssrc datagram).1 := by
  obtain ⟨detail, hparse⟩ := exists_parse_eq_error_iff.mpr h
  simp only [receive, hparse]
  exact ⟨rfl, rfl, rfl, rfl⟩

/-- What becomes of a datagram that is longer than what is seen of it. -/
theorem receive_long (hlong : maxPacket < datagram.length) :
    let later := (intake.receive ssrc datagram).1
    (CutMalformed datagram → Refused intake later) ∧
    (¬CutMalformed datagram →
      ∃ packet, Packet.read (datagram.take maxPacket) = .ok packet ∧
        Accepted (packet.withSsrc ssrc) intake later) ∧
    ∀ packet, Packet.read datagram = .ok packet →
      (datagram.headD 0).toNat / 32 % 2 = 0 →
      payloadStart datagram ≤ maxPacket →
        let cut := packet.cutTo (maxPacket - payloadStart datagram)
        cut.payload.length < packet.payload.length ∧
          Accepted (cut.withSsrc ssrc) intake later := by
  refine ⟨?_, ?_, ?_⟩
  · intro hmalformed
    exact refused_receive ((malformed_take_iff hlong).mpr hmalformed)
  · intro hwell
    obtain ⟨packet, hread⟩ := exists_read_of_not_malformed fun hmalformed =>
      hwell ((malformed_take_iff hlong).mp hmalformed)
    exact ⟨packet, hread, accepted_receive hread⟩
  · intro packet hread hclear hheader
    exact ⟨length_payload_cutTo_lt hread hclear hheader hlong,
      accepted_receive (read_take hread hclear hheader)⟩

end LanRelay.Intake
