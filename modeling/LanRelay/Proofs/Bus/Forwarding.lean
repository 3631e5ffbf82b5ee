/-
What is accepted from the wire can be sent on.

A message that was read is written again with at most a few bytes more than it
was read from. It is shorter where numbers were spelt too long, where fields
were unknown, and where they came again. It is longer only by an inner message
that was missing and is written as an empty one, two bytes, and by a negative
fraction of a second, which can be read from five bytes and is written in ten.

Main statement: `accepted_messages_can_be_forwarded`.
-/
import LanRelay.Proofs.Bus.Kinds
import LanRelay.Proofs.Bus.Staleness
import LanRelay.Proofs.Wire.Weight
import LanRelay.Session.Sinks

namespace LanRelay

open LanRelay.Wire

/-! Timestamps. -/

/-- A fraction is written in 64 bits as it is in 32, unless it is negative. -/
theorem int32_toNat_or_ge (x : Int32) :
    x.toInt64.toUInt64.toNat = x.toUInt32.toNat ∨
      2147483648 ≤ x.toUInt32.toNat := by
  by_cases hsmall : x.toUInt32.toNat < 2147483648
  · have hsign : x.toBitVec.msb = false := by
      rw [BitVec.msb_eq_decide]
      exact decide_eq_false (Nat.not_le.mpr hsmall)
    left
    calc x.toInt64.toUInt64.toNat = (x.toBitVec.signExtend 64).toNat := rfl
      _ = x.toBitVec.toNat % 2 ^ 64 := by
          rw [BitVec.signExtend_eq_setWidth_of_msb_false hsign,
            BitVec.toNat_setWidth]
      _ = x.toUInt32.toNat :=
          Nat.mod_eq_of_lt (Nat.lt_trans hsmall (by decide))
  · right
    omega

theorem int32_toNat_toUInt32 {x : Int32} (h : 0 ≤ x.toInt) :
    x.toInt.toNat = x.toUInt32.toNat := by
  have hvalue : x.toInt = x.toBitVec.toInt := rfl
  have hnat : x.toUInt32.toNat = x.toBitVec.toNat := rfl
  rw [BitVec.toInt_eq_toNat_cond] at hvalue
  split at hvalue
  · omega
  · have hbits := x.toBitVec.isLt
    omega

namespace Timestamp

/-- The bytes of the fields of a timestamp, if the fraction took 32 bits. -/
def weight (ts : Timestamp) : Nat :=
  (writeNumber 1 ts.seconds.toUInt64.toNat).length +
    (writeNumber 2 ts.nanos.toUInt32.toNat).length

theorem weight_zero : zero.weight = 0 := by cbv

theorem schema_weighs : schema.Weighs weight := by
  intro number field hentry
  simp only [schema, List.mem_cons, List.not_mem_nil, or_false,
    Prod.mk.injEq] at hentry
  rcases hentry with ⟨-, rfl⟩ | ⟨-, rfl⟩
  · apply Field.number_weighs (show 1 < 16 by decide)
    intro n ts
    refine ⟨(UInt64.ofNat n).toNat, ?_, ?_⟩
    · rw [UInt64.toNat_ofNat']
      exact Nat.mod_le _ _
    · simp only [weight, UInt64.toUInt64_toInt64]
      omega
  · apply Field.number_weighs (show 2 < 16 by decide)
    intro n ts
    refine ⟨(UInt32.ofNat n).toNat, ?_, ?_⟩
    · rw [UInt32.toNat_ofNat']
      exact Nat.mod_le _ _
    · simp only [weight, UInt32.toUInt32_toInt32]
      omega

/-- A negative fraction takes at least five bytes of the ten that it is written
in. -/
theorem length_toWire_le_weight (ts : Timestamp) :
    ts.toWire.length ≤ ts.weight + 5 := by
  rw [toWire, List.length_append, weight]
  rcases int32_toNat_or_ge ts.nanos with hsame | hnegative
  · rw [hsame]
    omega
  · have hwide :
        (writeNumber 2 ts.nanos.toInt64.toUInt64.toNat).length ≤ 11 :=
      length_writeNumber_le (by decide)
        (Nat.lt_of_lt_of_le ts.nanos.toInt64.toUInt64.toNat_lt (by decide))
    have hlong := length_writeVarint_mono hnegative
    rw [show (writeVarint 2147483648).length = 5 by cbv] at hlong
    have hnarrow :
        (writeNumber 2 ts.nanos.toUInt32.toNat).length =
          1 + (writeVarint ts.nanos.toUInt32.toNat).length := by
      rw [writeNumber, if_neg (by omega), List.length_append,
        length_writeKey (by decide)]
    omega

/-- A timestamp inside another message. -/
theorem delimitedLength_toWire_le (ts : Timestamp) :
    delimitedLength ts.toWire.length ≤ delimitedLength ts.weight + 5 := by
  have hshort := ts.length_toWire_le
  have hgrowth := ts.length_toWire_le_weight
  have hinner := add_two_le_delimitedLength ts.weight
  rw [delimitedLength_of_lt (by omega)]
  omega

/-- A stamp takes at most five bytes more than what it was read from, or two if
there was none. -/
theorem delimitedLength_getD_le (stamp : Option Timestamp) :
    delimitedLength (stamp.getD .zero).toWire.length ≤
      optionalLength weight stamp + 5 := by
  cases stamp with
  | none =>
      rw [Option.getD_none, show zero.toWire = [] from rfl, List.length_nil,
        delimitedLength_of_lt (by decide)]
      omega
  | some ts => exact ts.delimitedLength_toWire_le

theorem optionalLength_toWire_le (stamp : Option Timestamp) :
    optionalLength (·.toWire.length) stamp ≤
      optionalLength weight stamp + 5 := by
  cases stamp with
  | none => exact Nat.zero_le _
  | some ts => exact ts.delimitedLength_toWire_le

end Timestamp

/-! Payloads. -/

namespace Payload

/-- The bytes of the fields of a payload. -/
def weight (payload : Payload) : Nat := payload.toWire.length

theorem weight_raw_nil : (raw []).weight = 0 := rfl

theorem schema_weighs : schema.Weighs weight := by
  intro number field hentry
  simp only [schema, List.mem_cons, List.not_mem_nil, or_false,
    Prod.mk.injEq] at hentry
  rcases hentry with ⟨-, rfl⟩ | ⟨-, rfl⟩
  · apply Field.text_weighs (show 1 < 16 by decide)
    intro text payload
    simp only [weight, toWire, List.length_append]
    omega
  · apply Field.bytes_weighs (show 2 < 16 by decide)
    intro value payload
    simp only [weight, toWire, List.length_append]
    omega

/-- A payload takes at most the two bytes of an empty one more. -/
theorem delimitedLength_getD_le (data : Option Payload) :
    delimitedLength (data.getD (.raw [])).toWire.length ≤
      optionalLength weight data + 2 := by
  cases data with
  | none =>
      rw [Option.getD_none, show (raw []).toWire = [] from rfl,
        List.length_nil, delimitedLength_of_lt (by decide)]
      exact Nat.le_add_left _ _
  | some payload => exact Nat.le_add_right _ _

end Payload

/-! Events. -/

namespace Event

/-- The bytes of the fields of an event, with nothing for an inner message that
is missing. -/
def Draft.weight (draft : Draft) : Nat :=
  optionalLength Timestamp.weight draft.stamp +
    (writeBytes 2 (Bytes.ofText draft.name)).length +
    optionalLength Payload.weight draft.data

theorem schema_weighs : schema.Weighs Draft.weight := by
  intro number field hentry
  simp only [schema, List.mem_cons, List.not_mem_nil, or_false,
    Prod.mk.injEq] at hentry
  rcases hentry with ⟨-, rfl⟩ | ⟨-, rfl⟩ | ⟨-, rfl⟩
  · apply Field.inner_weighs Timestamp.schema_isLocal Timestamp.schema_weighs
      Timestamp.weight_zero
    intro ts draft
    simp only [Draft.weight, optionalLength]
    omega
  · apply Field.text_weighs (show 2 < 16 by decide)
    intro text draft
    simp only [Draft.weight]
    omega
  · apply Field.inner_weighs Payload.schema_isLocal Payload.schema_weighs
      Payload.weight_raw_nil
    intro payload draft
    simp only [Draft.weight, optionalLength]
    omega

theorem weight_blank : Draft.blank.weight = 0 := rfl

/-- An event is at most seven bytes longer than what it was read from. -/
theorem length_toWire_le_of_decode {bytes : Bytes} {event : Event}
    (h : decode bytes = .ok event) :
    event.toWire.length ≤ bytes.length + 7 := by
  obtain ⟨-, draft, hdraft, rfl⟩ := decode_eq_ok_iff.mp h
  have hweight := schema_weighs.read weight_blank hdraft
  have hstamp := Timestamp.delimitedLength_getD_le draft.stamp
  have hdata := Payload.delimitedLength_getD_le draft.data
  rw [Draft.weight] at hweight
  simp only [toWire, List.length_append,
    length_writeDelimited (show 1 < 16 by decide),
    length_writeDelimited (show 3 < 16 by decide)]
  omega

end Event

/-! Announcements. -/

namespace Announcement

/-- The bytes of the fields of an announcement, with nothing for a stamp that
is missing. -/
def Draft.weight (draft : Draft) : Nat :=
  (writeBytes 1 (Bytes.ofText draft.host)).length +
    (writeNumber 2 draft.port.toUInt32.toNat).length +
    (writeBytes 3 (Bytes.ofText draft.service)).length +
    optionalLength Timestamp.weight draft.stamp +
    optionalLength Timestamp.weight draft.receiveStamp

theorem schema_weighs : schema.Weighs Draft.weight := by
  intro number field hentry
  simp only [schema, List.mem_cons, List.not_mem_nil, or_false,
    Prod.mk.injEq] at hentry
  rcases hentry with ⟨-, rfl⟩ | ⟨-, rfl⟩ | ⟨-, rfl⟩ | ⟨-, rfl⟩ | ⟨-, rfl⟩
  · apply Field.text_weighs (show 1 < 16 by decide)
    intro text draft
    simp only [Draft.weight]
    omega
  · apply Field.number_weighs (show 2 < 16 by decide)
    intro n draft
    refine ⟨(UInt32.ofNat n).toNat, ?_, ?_⟩
    · rw [UInt32.toNat_ofNat']
      exact Nat.mod_le _ _
    · simp only [Draft.weight, UInt32.toUInt32_toInt32]
      omega
  · apply Field.text_weighs (show 3 < 16 by decide)
    intro text draft
    simp only [Draft.weight]
    omega
  · apply Field.inner_weighs Timestamp.schema_isLocal Timestamp.schema_weighs
      Timestamp.weight_zero
    intro ts draft
    simp only [Draft.weight, optionalLength]
    omega
  · apply Field.inner_weighs Timestamp.schema_isLocal Timestamp.schema_weighs
      Timestamp.weight_zero
    intro ts draft
    simp only [Draft.weight, optionalLength]
    omega

theorem weight_blank : Draft.blank.weight = 0 := by cbv

/-- The port of what is accepted is kept, and so are the other fields. -/
theorem decode_eq_ok_iff {bytes : Bytes} {announcement : Announcement} :
    Announcement.decode bytes = .ok announcement ↔
      bytes.length ≤ maxDatagram ∧
        ∃ draft, schema.read .blank bytes = .ok draft ∧
          (0 ≤ draft.port.toInt ∧ draft.port.toInt < 65536) ∧
          ⟨draft.host, UInt16.ofNat draft.port.toInt.toNat, draft.service,
            draft.stamp.getD .zero, draft.receiveStamp⟩ = announcement := by
  constructor
  · intro h
    obtain ⟨bytes', hbounded, hread⟩ := bind_eq_ok_iff.mp h
    obtain ⟨rfl, hfits⟩ := length_le_of_bounded hbounded
    split at hread
    · cases hread
    · rename_i draft hdraft
      split at hread
      · rename_i hrange
        cases hread
        exact ⟨hfits, draft, hdraft, hrange, rfl⟩
      · cases hread
  · rintro ⟨hfits, draft, hdraft, hrange, rfl⟩
    simp only [decode, bounded_of_le hfits, bind, Except.bind, hdraft]
    rw [if_pos hrange]
    rfl

theorem length_toWire (announcement : Announcement) :
    announcement.toWire.length =
      (writeBytes 1 (Bytes.ofText announcement.host)).length +
        (writeNumber 2 announcement.port.toNat).length +
        (writeBytes 3 (Bytes.ofText announcement.service)).length +
        delimitedLength announcement.sentAt.toWire.length +
        optionalLength (·.toWire.length) announcement.receivedAt := by
  obtain ⟨host, port, service, sentAt, receivedAt⟩ := announcement
  cases receivedAt with
  | none =>
      simp only [toWire, List.length_append, List.length_nil, optionalLength,
        length_writeDelimited (show 4 < 16 by decide)]
  | some ts =>
      simp only [toWire, List.length_append, optionalLength,
        length_writeDelimited (show 4 < 16 by decide),
        length_writeDelimited (show 5 < 16 by decide)]

/-- An announcement is at most ten bytes longer than what it was read from. -/
theorem length_toWire_le_of_decode {bytes : Bytes}
    {announcement : Announcement} (h : decode bytes = .ok announcement) :
    announcement.toWire.length ≤ bytes.length + 10 := by
  obtain ⟨-, draft, hdraft, ⟨hpositive, hsmall⟩, rfl⟩ :=
    decode_eq_ok_iff.mp h
  have hweight := schema_weighs.read weight_blank hdraft
  have hstamp := Timestamp.delimitedLength_getD_le draft.stamp
  have hreceived :=
    Timestamp.optionalLength_toWire_le draft.receiveStamp
  have hport : (UInt16.ofNat draft.port.toInt.toNat).toNat =
      draft.port.toUInt32.toNat := by
    rw [UInt16.toNat_ofNat', ← int32_toNat_toUInt32 hpositive]
    exact Nat.mod_eq_of_lt (by omega)
  rw [Draft.weight] at hweight
  simp only [length_toWire, hport]
  omega

end Announcement

/-! What was accepted is sent on. -/

/-- The message that was read from the bytes is written with at most so many
bytes more. With room for these it is sent on, and comes back as it is however
often it is sent on; it fails to be written only for want of room. -/
structure Forwardable {α : Type} (what : String) (growth : Nat)
    (toWire : α → Bytes) (encode : α → Except Fault Bytes)
    (decode : Bytes → Except Fault α) (bytes : Bytes) (message : α) :
    Prop where
  length_le : (toWire message).length ≤ bytes.length + growth
  written : ∀ bytes', encode message = .ok bytes' → bytes' = toWire message
  forwarded : bytes.length + growth ≤ maxDatagram →
    ∃ bytes', encode message = .ok bytes' ∧ decode bytes' = .ok message ∧
      ∀ again, decode bytes' = .ok again → encode again = .ok bytes'
  refused : ∀ fault, encode message = .error fault →
    fault = .oversized what (toWire message).length maxDatagram

/-- It is enough that a message does not grow further. -/
theorem Faithful.forwardable {α : Type} {what : String} {growth : Nat}
    {toWire : α → Bytes} {encode : α → Except Fault Bytes}
    {decode : Bytes → Except Fault α} (h : Faithful what toWire encode decode)
    {bytes : Bytes} {message : α}
    (hlength : (toWire message).length ≤ bytes.length + growth) :
    Forwardable what growth toWire encode decode bytes message := by
  refine ⟨hlength, fun _ => h.written, ?_, ?_⟩
  · intro hroom
    have hfits : (toWire message).length ≤ maxDatagram :=
      Nat.le_trans hlength hroom
    obtain ⟨bytes', hwritten⟩ := (h.written_iff message).mpr hfits
    have hread := h.readBack hwritten
    refine ⟨bytes', hwritten, hread, ?_⟩
    intro again hagain
    obtain rfl := Except.ok.inj (hread.symm.trans hagain)
    exact hwritten
  · intro fault hfault
    have hlarge : maxDatagram < (toWire message).length := by
      apply Nat.lt_of_not_le
      intro hfits
      obtain ⟨bytes', hwritten⟩ := (h.written_iff message).mpr hfits
      rw [hfault] at hwritten
      cases hwritten
    rw [h.oversized message hlarge] at hfault
    exact (Except.error.inj hfault).symm

/-- An event that was read goes out on a data channel too, if its frames have
room for seven bytes more. -/
theorem EventSink.frame_of_decode {bytes : Bytes} {event : Event}
    {frameBytes : Nat} (h : Event.decode bytes = .ok event)
    (hroom : bytes.length + 7 ≤ maxDatagram)
    (hframe : bytes.length + 7 ≤ frameBytes) :
    frame frameBytes event = .ok event.toWire := by
  have hlength := Event.length_toWire_le_of_decode h
  have hencode : event.encode = .ok event.toWire :=
    bounded_of_le (Nat.le_trans hlength hroom)
  simp only [frame, hencode, bind, Except.bind]
  rw [if_neg (by omega)]
  rfl

/-- An event that is read can be sent on with seven bytes more, and an
announcement with ten; and the event goes out on a data channel too, if its
frames have room for as much. -/
theorem accepted_messages_can_be_forwarded (bytes : Bytes) :
    (∀ event, Event.decode bytes = .ok event →
      Forwardable "event" 7 Event.toWire Event.encode Event.decode bytes
        event) ∧
    (∀ announcement, Announcement.decode bytes = .ok announcement →
      Forwardable "announcement" 10 Announcement.toWire Announcement.encode
        Announcement.decode bytes announcement) ∧
    ∀ event frameBytes, Event.decode bytes = .ok event →
      bytes.length + 7 ≤ maxDatagram → bytes.length + 7 ≤ frameBytes →
        EventSink.frame frameBytes event = .ok event.toWire := by
  refine ⟨?_, ?_, ?_⟩
  · intro event hevent
    exact Event.faithful.forwardable (Event.length_toWire_le_of_decode hevent)
  · intro announcement hannouncement
    exact Announcement.faithful.forwardable
      (Announcement.length_toWire_le_of_decode hannouncement)
  · intro event frameBytes
    exact EventSink.frame_of_decode

/-- Stamps with the fraction -1, read from five bytes each, take all the bytes
that there are: eight become fifteen, and sixteen become twenty-six. -/
theorem accepted_messages_can_be_forwarded_of_negative_fractions :
    Forwardable "event" 7 Event.toWire Event.encode Event.decode
        [10, 6, 16, 255, 255, 255, 255, 15] ⟨"", ⟨0, -1⟩, .raw []⟩ ∧
      (⟨"", ⟨0, -1⟩, .raw []⟩ : Event).toWire.length = 8 + 7 ∧
      Forwardable "announcement" 10 Announcement.toWire Announcement.encode
        Announcement.decode [34, 6, 16, 255, 255, 255, 255, 15,
          42, 6, 16, 255, 255, 255, 255, 15]
        ⟨"", 0, "", ⟨0, -1⟩, some ⟨0, -1⟩⟩ ∧
      (⟨"", 0, "", ⟨0, -1⟩, some ⟨0, -1⟩⟩ : Announcement).toWire.length =
        16 + 10 ∧
      EventSink.frame 15 ⟨"", ⟨0, -1⟩, .raw []⟩ =
        .ok (Event.toWire ⟨"", ⟨0, -1⟩, .raw []⟩) := by
  have hevent : Event.decode [10, 6, 16, 255, 255, 255, 255, 15] =
      .ok ⟨"", ⟨0, -1⟩, .raw []⟩ := by decide +kernel
  exact ⟨(accepted_messages_can_be_forwarded _).1 _ hevent,
    by decide +kernel,
    (accepted_messages_can_be_forwarded _).2.1 _ (by decide +kernel),
    by decide +kernel,
    (accepted_messages_can_be_forwarded _).2.2 _ 15 hevent (by decide)
      (by decide)⟩

end LanRelay
