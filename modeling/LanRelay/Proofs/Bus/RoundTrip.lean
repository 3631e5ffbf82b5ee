/-
Announcements and events are read back as they were written.

Writing fails only for a message that does not fit into a datagram. So no two
messages are written alike, and a message that is handed on from one
participant to the next stays the same, byte by byte.
-/
import LanRelay.Bus.Datagram
import LanRelay.Proofs.Wire.Fields

namespace LanRelay

open LanRelay.Wire

/-! The numbers of a timestamp on the wire. -/

theorem int64_ofNat_toNat (x : Int64) :
    (UInt64.ofNat x.toUInt64.toNat).toInt64 = x := by
  rw [UInt64.ofNat_toNat, Int64.toInt64_toUInt64]

/-- A 32-bit number is written in 64 bits, and the low half is read. -/
theorem int32_ofNat_toNat (x : Int32) :
    (UInt32.ofNat x.toInt64.toUInt64.toNat).toInt32 = x := by
  apply Int32.toBitVec_inj.mp
  ext i hi
  have hwide : i < 64 := by omega
  simp [hi, hwide, BitVec.getLsbD_eq_getElem, BitVec.getElem_signExtend]

/-! Each message is carried by its bytes. -/

theorem Timestamp.carries (ts : Timestamp) (depth : Nat) :
    Timestamp.schema.Carries depth ts.toWire .zero ts := by
  have hseconds := Schema.carries_number Timestamp.schema depth 1
    ts.seconds.toUInt64.toNat .zero rfl (by decide) (by decide)
    ts.seconds.toUInt64.toNat_lt (fun _ => rfl)
  have hnanos := Schema.carries_number Timestamp.schema depth 2
    ts.nanos.toInt64.toUInt64.toNat ⟨ts.seconds, 0⟩ rfl (by decide)
    (by decide) ts.nanos.toInt64.toUInt64.toNat_lt (fun _ => rfl)
  simp only [int64_ofNat_toNat] at hseconds
  simp only [int32_ofNat_toNat] at hnanos
  exact hseconds.append hnanos

theorem Payload.carries (payload : Payload) (depth : Nat)
    (hlength : payload.toWire.length ≤ maxDatagram) :
    Payload.schema.Carries depth payload.toWire (.raw []) payload := by
  have htype := length_le_writeBytes 1 (Bytes.ofText payload.typeUrl)
  have hvalue := length_le_writeBytes 2 payload.value
  simp only [Payload.toWire, List.length_append, maxDatagram] at hlength
  have hfirst := Schema.carries_text Payload.schema depth 1 payload.typeUrl
    (.raw []) rfl (by decide) (by decide) (by omega) (fun _ => rfl)
  have hsecond := Schema.carries_bytes Payload.schema depth 2 payload.value
    ⟨payload.typeUrl, []⟩ rfl (by decide) (by decide) (by omega)
    (fun _ => rfl)
  exact hfirst.append hsecond

theorem Event.carries (event : Event)
    (hlength : event.toWire.length ≤ maxDatagram) :
    Event.schema.Carries Schema.maxDepth event.toWire .blank
      ⟨some event.stamp, event.name, some event.data⟩ := by
  have hstamp := length_le_writeDelimited 1 event.stamp.toWire
  have hname := length_le_writeBytes 2 (Bytes.ofText event.name)
  have hdata := length_le_writeDelimited 3 event.data.toWire
  simp only [Event.toWire, List.length_append, maxDatagram] at hlength
  have hfirst := Schema.carries_inner Event.schema Schema.maxDepth 1
    event.stamp.toWire .blank rfl (by decide) (by decide) (by omega)
    (by decide) (event.stamp.carries _)
  have hsecond := Schema.carries_text Event.schema Schema.maxDepth 2
    event.name ⟨some event.stamp, "", none⟩ rfl (by decide) (by decide)
    (by omega) (fun _ => rfl)
  have hthird := Schema.carries_inner Event.schema Schema.maxDepth 3
    event.data.toWire ⟨some event.stamp, event.name, none⟩ rfl (by decide)
    (by decide) (by omega) (by decide)
    (event.data.carries _ (by simp only [maxDatagram]; omega))
  exact (hfirst.append hsecond).append hthird

/-- The port of an announcement as a 32-bit number. -/
def Announcement.widePort (announcement : Announcement) : Int32 :=
  (UInt32.ofNat announcement.port.toNat).toInt32

theorem Announcement.widePort_toInt (announcement : Announcement) :
    announcement.widePort.toInt = announcement.port.toNat := by
  have hport := announcement.port.toNat_lt
  rw [widePort, UInt32.toInt32_ofNat', Int32.toInt_ofNat_of_lt (by omega)]

theorem Announcement.carries (announcement : Announcement)
    (hlength : announcement.toWire.length ≤ maxDatagram) :
    Announcement.schema.Carries Schema.maxDepth announcement.toWire .blank
      ⟨announcement.host, announcement.widePort, announcement.service,
        some announcement.sentAt, announcement.receivedAt⟩ := by
  obtain ⟨host, port, service, sentAt, receivedAt⟩ := announcement
  have hhost := length_le_writeBytes 1 (Bytes.ofText host)
  have hservice := length_le_writeBytes 3 (Bytes.ofText service)
  have hsent := length_le_writeDelimited 4 sentAt.toWire
  have hport := port.toNat_lt
  simp only [Announcement.toWire, List.length_append, maxDatagram] at hlength
  have hfirst := Schema.carries_text Announcement.schema Schema.maxDepth 1
    host .blank rfl (by decide) (by decide) (by omega) (fun _ => rfl)
  have hsecond := Schema.carries_number Announcement.schema Schema.maxDepth 2
    port.toNat ⟨host, 0, "", none, none⟩ rfl (by decide) (by decide)
    (by omega) (fun _ => rfl)
  have hthird := Schema.carries_text Announcement.schema Schema.maxDepth 3
    service ⟨host, (UInt32.ofNat port.toNat).toInt32, "", none, none⟩ rfl
    (by decide) (by decide) (by omega) (fun _ => rfl)
  have hfourth := Schema.carries_inner Announcement.schema Schema.maxDepth 4
    sentAt.toWire
    ⟨host, (UInt32.ofNat port.toNat).toInt32, service, none, none⟩ rfl
    (by decide) (by decide) (by omega) (by decide) (sentAt.carries _)
  have hsentPart := ((hfirst.append hsecond).append hthird).append hfourth
  cases receivedAt with
  | none => exact hsentPart.append (Schema.Carries.refl _ _ _)
  | some ts =>
      have hreceived := length_le_writeDelimited 5 ts.toWire
      dsimp only at hlength
      have hfifth := Schema.carries_inner Announcement.schema Schema.maxDepth 5
        ts.toWire
        ⟨host, (UInt32.ofNat port.toNat).toInt32, service, some sentAt, none⟩
        rfl (by decide) (by decide) (by omega) (by decide) (ts.carries _)
      exact hsentPart.append hfifth

/-! What fits into a datagram is read back. -/

theorem bounded_of_le {what : String} {bytes : Bytes}
    (h : bytes.length ≤ maxDatagram) : bounded what bytes = .ok bytes := by
  rw [bounded, if_neg (by omega)]

theorem bounded_of_gt {what : String} {bytes : Bytes}
    (h : maxDatagram < bytes.length) :
    bounded what bytes = .error (.oversized what bytes.length maxDatagram) := by
  rw [bounded, if_pos h]

theorem length_le_of_bounded {what : String} {bytes bounded' : Bytes}
    (h : bounded what bytes = .ok bounded') :
    bounded' = bytes ∧ bytes.length ≤ maxDatagram := by
  by_cases hfits : bytes.length ≤ maxDatagram
  · rw [bounded_of_le hfits] at h
    exact ⟨(Except.ok.inj h).symm, hfits⟩
  · rw [bounded_of_gt (by omega)] at h
    cases h

theorem Event.decode_toWire {event : Event}
    (h : event.toWire.length ≤ maxDatagram) :
    Event.decode event.toWire = .ok event := by
  have hread := Schema.read_of_carries (event.carries h)
  simp only [Event.decode, bounded_of_le h, bind, Except.bind, hread]
  rfl

theorem Announcement.decode_toWire {announcement : Announcement}
    (h : announcement.toWire.length ≤ maxDatagram) :
    Announcement.decode announcement.toWire = .ok announcement := by
  have hread := Schema.read_of_carries (announcement.carries h)
  have hport := announcement.port.toNat_lt
  have hrange : 0 ≤ announcement.widePort.toInt ∧
      announcement.widePort.toInt < 65536 := by
    rw [announcement.widePort_toInt]
    omega
  simp only [Announcement.decode, bounded_of_le h, bind, Except.bind, hread]
  rw [if_pos hrange, announcement.widePort_toInt, Int.toNat_natCast,
    UInt16.ofNat_toNat]
  rfl

/-! A message goes from one participant to the next. -/

/-- The bytes after so many participants have read them and written them
again. -/
def handOn {α : Type} (encode : α → Except Fault Bytes)
    (decode : Bytes → Except Fault α) : Nat → Bytes → Except Fault Bytes
  | 0, bytes => .ok bytes
  | hops + 1, bytes => do
      let message ← decode bytes
      let bytes ← encode message
      handOn encode decode hops bytes

/-- Messages are written if they fit into a datagram, and are read back as they
were. -/
structure Faithful {α : Type} (what : String) (toWire : α → Bytes)
    (encode : α → Except Fault Bytes) (decode : Bytes → Except Fault α) :
    Prop where
  written_iff : ∀ message,
    (∃ bytes, encode message = .ok bytes) ↔
      (toWire message).length ≤ maxDatagram
  written : ∀ {message bytes}, encode message = .ok bytes →
    bytes = toWire message
  oversized : ∀ message, maxDatagram < (toWire message).length →
    encode message =
      .error (.oversized what (toWire message).length maxDatagram)
  readBack : ∀ {message bytes}, encode message = .ok bytes →
    decode bytes = .ok message
  injective : ∀ {first second bytes}, encode first = .ok bytes →
    encode second = .ok bytes → first = second
  handedOn : ∀ {message bytes}, encode message = .ok bytes →
    ∀ hops, handOn encode decode hops bytes = .ok bytes

/-- It is enough that what fits into a datagram is read back. -/
theorem faithful_of_decode_toWire {α : Type} {what : String}
    {toWire : α → Bytes} {encode : α → Except Fault Bytes}
    {decode : Bytes → Except Fault α}
    (hencode : ∀ message, encode message = bounded what (toWire message))
    (hdecode : ∀ message, (toWire message).length ≤ maxDatagram →
      decode (toWire message) = .ok message) :
    Faithful what toWire encode decode := by
  have hwritten : ∀ {message bytes}, encode message = .ok bytes →
      bytes = toWire message ∧ (toWire message).length ≤ maxDatagram := by
    intro message bytes h
    rw [hencode] at h
    exact length_le_of_bounded h
  have hread : ∀ {message bytes}, encode message = .ok bytes →
      decode bytes = .ok message := by
    intro message bytes h
    obtain ⟨rfl, hfits⟩ := hwritten h
    exact hdecode message hfits
  refine ⟨?_, fun h => (hwritten h).1, ?_, hread, ?_, ?_⟩
  · intro message
    constructor
    · rintro ⟨bytes, h⟩
      exact (hwritten h).2
    · intro hfits
      exact ⟨toWire message, by rw [hencode, bounded_of_le hfits]⟩
  · intro message hlarge
    rw [hencode, bounded_of_gt hlarge]
  · intro first second bytes hfirst hsecond
    have hsame := (hread hfirst).symm.trans (hread hsecond)
    exact Except.ok.inj hsame
  · intro message bytes h hops
    induction hops with
    | zero => rfl
    | succ hops ih =>
        simp only [handOn, hread h, h, bind, Except.bind]
        exact ih

theorem Event.faithful :
    Faithful "event" Event.toWire Event.encode Event.decode :=
  faithful_of_decode_toWire (fun _ => rfl) fun _ h => Event.decode_toWire h

theorem Announcement.faithful :
    Faithful "announcement" Announcement.toWire Announcement.encode
      Announcement.decode :=
  faithful_of_decode_toWire (fun _ => rfl)
    fun _ h => Announcement.decode_toWire h

/-- Events and announcements survive the wire, on any number of hops. -/
theorem events_and_announcements_survive_the_wire :
    Faithful "event" Event.toWire Event.encode Event.decode ∧
      Faithful "announcement" Announcement.toWire Announcement.encode
        Announcement.decode :=
  ⟨Event.faithful, Announcement.faithful⟩

end LanRelay
