/-
Datagrams that are cut off.

A node sees no more than the first 1024 bytes of a datagram, so it never finds
one too long. It takes what it sees for a message if that can be read as one,
and it can only where no field is cut off. So an event that is too long to be
sent is refused, unless its payload begins at the cut: then it is taken without
the payload.

Main statements: `Node.took_receive`, `Node.receive_event_of_gt` and
`long_datagrams_are_cut_off`.
-/
import LanRelay.Proofs.Bus.Confinement
import LanRelay.Proofs.Bus.Staleness
import LanRelay.Proofs.Rtp.Truncation
import LanRelay.Proofs.Wire.Cut

namespace LanRelay

open LanRelay.Wire LanRelay.Rtp

/-! The messages of the bus as sequences of fields. -/

theorem Event.schema_isPlain : Event.schema.IsPlain := by
  intro number field hentry
  simp only [Event.schema, List.mem_cons, List.not_mem_nil, or_false,
    Prod.mk.injEq] at hentry
  rcases hentry with ⟨-, rfl⟩ | ⟨-, rfl⟩ | ⟨-, rfl⟩
  · exact Field.inner_isPlain Timestamp.schema_isLocal "stamp" _ _
  · exact Field.text_isPlain "name" _
  · exact Field.inner_isPlain Payload.schema_isLocal "data" _ _

theorem Announcement.schema_isPlain : Announcement.schema.IsPlain := by
  intro number field hentry
  simp only [Announcement.schema, List.mem_cons, List.not_mem_nil, or_false,
    Prod.mk.injEq] at hentry
  rcases hentry with ⟨-, rfl⟩ | ⟨-, rfl⟩ | ⟨-, rfl⟩ | ⟨-, rfl⟩ | ⟨-, rfl⟩
  · exact Field.text_isPlain "host" _
  · exact Field.number_isPlain "port" _
  · exact Field.text_isPlain "service" _
  · exact Field.inner_isPlain Timestamp.schema_isLocal "stamp" _ _
  · exact Field.inner_isPlain Timestamp.schema_isLocal "recv_stamp" _ _

theorem Event.exists_decode_iff {bytes : Bytes}
    (hfits : bytes.length ≤ maxDatagram) :
    (∃ event, Event.decode bytes = .ok event) ↔
      ∃ draft, Event.schema.read .blank bytes = .ok draft := by
  constructor
  · rintro ⟨event, hevent⟩
    obtain ⟨-, draft, hdraft, -⟩ := Event.decode_eq_ok_iff.mp hevent
    exact ⟨draft, hdraft⟩
  · rintro ⟨draft, hdraft⟩
    exact ⟨_, Event.decode_eq_ok_iff.mpr ⟨hfits, draft, hdraft, rfl⟩⟩

/-- What fits into a datagram and is not an announcement fails to be read as
one. -/
theorem Announcement.decode_isDecode {bytes : Bytes} {fault : Fault}
    (hfits : bytes.length ≤ maxDatagram)
    (h : Announcement.decode bytes = .error fault) : fault.isDecode = true := by
  simp only [Announcement.decode, bounded_of_le hfits, bind, Except.bind] at h
  split at h
  · cases h
    rfl
  · split at h
    · cases h
    · cases h
      rfl

theorem Datagram.decode_isDecode {bytes : Bytes} {fault : Fault}
    (hfits : bytes.length ≤ maxDatagram)
    (h : Datagram.decode bytes = .error fault) : fault.isDecode = true := by
  unfold Datagram.decode at h
  split at h
  · cases h
  · rename_i fault' hevent
    have hdecode := Event.decode_isDecode hfits hevent
    rw [if_pos hdecode] at h
    split at h
    · cases h
    · cases h
      exact hdecode

/-- What is read is made of whole fields. -/
theorem Datagram.wholeFields_of_decode {bytes : Bytes} {message : Datagram}
    (h : Datagram.decode bytes = .ok message) : WholeFields bytes := by
  unfold Datagram.decode at h
  split at h
  · rename_i event hevent
    obtain ⟨-, draft, hdraft, -⟩ := Event.decode_eq_ok_iff.mp hevent
    exact Event.schema_isPlain.wholeFields_of_read hdraft
  · split at h
    · split at h
      · rename_i announcement hannouncement
        obtain ⟨draft, hdraft, -⟩ := Announcement.decode_eq_ok hannouncement
        exact Announcement.schema_isPlain.wholeFields_of_read hdraft
      · cases h
    · cases h

namespace Node

/-- A node has taken an event: it is counted, it is the latest one of its name,
and it is handed on if there is room. -/
structure TookEvent (event : Event) (node later : Node) : Prop where
  received : later.tally.get .eventsReceived =
    node.tally.get .eventsReceived + 1
  table : later.table = node.table
  get?_latest : ∀ name, later.latest.get? name =
    if name = event.name then some event else node.latest.get? name
  delivery : later.delivery =
    node.delivery.map fun queue => (queue.trySend event).1

/-- What a node has done with a message, by the channel that it came in at. -/
inductive Took (source : Endpoint) (now : Instant) (node later : Node) :
    BusChannel → Datagram → Prop where
  | peer {announcement : Announcement}
      (h : OnlyIntroduced source node later)
      (hentry : later.table.get? source =
        some (announcement.stamped (.ofInstant now))) :
      Took source now node later .presence (.announcement announcement)
  | refresh {announcement : Announcement}
      (h : OnlyRefreshed source now node later) :
      Took source now node later .events (.announcement announcement)
  | event {event : Event} (h : TookEvent event node later) :
      Took source now node later .events (.event event)

variable {node : Node} {channel : BusChannel} {bytes datagram : Bytes}
  {source : Endpoint} {now : Instant}

theorem Took.tookEvent {event : Event} {later : Node}
    (h : Took source now node later .events (.event event)) :
    TookEvent event node later := by
  cases h with
  | event h => exact h

theorem isDecode_of_readDatagram {fault : Fault}
    (hfits : bytes.length ≤ maxDatagram)
    (h : readDatagram bytes channel = .error fault) :
    fault.isDecode = true := by
  cases channel with
  | presence =>
      simp only [readDatagram] at h
      cases hread : Announcement.decode bytes with
      | ok announcement =>
          rw [hread] at h
          cases h
      | error fault' =>
          rw [hread] at h
          cases h
          exact Announcement.decode_isDecode hfits hread
  | events => exact Datagram.decode_isDecode hfits h

theorem wholeFields_of_readDatagram {message : Datagram}
    (h : readDatagram bytes channel = .ok message) : WholeFields bytes := by
  cases channel with
  | presence =>
      obtain ⟨announcement, hread, -⟩ := map_eq_ok_iff.mp h
      obtain ⟨draft, hdraft, -⟩ := Announcement.decode_eq_ok hread
      exact Announcement.schema_isPlain.wholeFields_of_read hdraft
  | events => exact Datagram.wholeFields_of_decode h

theorem delivery_deliver (node : Node) (event : Event) :
    (node.deliver event).delivery =
      node.delivery.map fun queue => (queue.trySend event).1 := by
  unfold deliver
  cases hdelivery : node.delivery with
  | none => exact hdelivery
  | some queue =>
      rcases hsend : queue.trySend event with ⟨queue', sent⟩
      cases sent <;> simp [hsend]

theorem tookEvent_recordEvent (node : Node) (event : Event) :
    TookEvent event node (node.recordEvent event) := by
  obtain ⟨delivery, tally, hrecord⟩ := node.recordEvent_eq event
  constructor
  · rw [recordEvent, get_received_deliver]
    exact node.tally.get_count .eventsReceived .eventsReceived
  · rw [hrecord]
  · intro name
    rw [hrecord]
    exact Keyed.get?_put ..
  · exact delivery_deliver _ event

/-- A node does with a message that it sees the front of what it would do if
the message ended there. -/
theorem took_receive {message : Datagram}
    (h : readDatagram (datagram.take maxDatagram) channel = .ok message) :
    Took source now node (node.receive channel datagram source now) channel
      message := by
  cases channel with
  | presence =>
      obtain ⟨announcement, -, rfl⟩ := map_eq_ok_iff.mp h
      refine .peer (@onlyIntroduced_hear node
        ⟨.presence, datagram.take maxDatagram, source, now⟩ rfl) ?_
      simp only [receive, handle, h]
      rw [recordPeer, Keyed.get?_put, if_pos rfl]
  | events =>
      simp only [receive, handle, h]
      cases message with
      | announcement announcement =>
          exact .refresh
            (node.onlyRefreshed_refreshPeer source announcement now)
      | event event => exact .event (node.tookEvent_recordEvent event)

theorem onlyCounted_receive {fault : Fault}
    (h : readDatagram (datagram.take maxDatagram) channel = .error fault) :
    OnlyCounted (.busDecodeErrors channel) node
      (node.receive channel datagram source now) :=
  @onlyCounted_hear node ⟨channel, datagram.take maxDatagram, source, now⟩
    fault h

end Node

/-! Events that are too long to be sent. -/

namespace Event

/-- What stands on the wire in front of the payload. -/
def headToWire (event : Event) : Bytes :=
  writeDelimited 1 event.stamp.toWire ++
    writeBytes 2 (Bytes.ofText event.name)

/-- The event without its payload. -/
def emptied (event : Event) : Event := { event with data := .raw [] }

variable {event : Event}

theorem toWire_eq (event : Event) :
    event.toWire = event.headToWire ++ writeDelimited 3 event.data.toWire :=
  rfl

theorem decode_headToWire (hfits : event.headToWire.length ≤ maxDatagram) :
    Event.decode event.headToWire = .ok event.emptied := by
  have hstamp := length_le_writeDelimited 1 event.stamp.toWire
  have hname := length_le_writeBytes 2 (Bytes.ofText event.name)
  have hlength := hfits
  simp only [headToWire, List.length_append, maxDatagram] at hlength
  have hfirst := Schema.carries_inner Event.schema Schema.maxDepth 1
    event.stamp.toWire .blank rfl (by decide) (by decide) (by omega)
    (by decide) (event.stamp.carries _)
  have hsecond := Schema.carries_text Event.schema Schema.maxDepth 2
    event.name ⟨some event.stamp, "", none⟩ rfl (by decide) (by decide)
    (by omega) (fun _ => rfl)
  have hread := Schema.read_of_carries (hfirst.append hsecond)
  exact Event.decode_eq_ok_iff.mpr ⟨hfits, _, hread, rfl⟩

/-- An event whose payload begins at the cut is read without it. -/
theorem decode_take_toWire (h : event.headToWire.length = maxDatagram) :
    Datagram.decode (event.toWire.take maxDatagram) = .ok (.event event.emptied)
    := by
  rw [toWire_eq, List.take_left' h, Datagram.decode,
    decode_headToWire (Nat.le_of_eq h)]

/-- The front of an event that is too long is made of whole fields only if its
payload begins at the cut. -/
theorem wholeFields_take_iff (hlong : maxDatagram < event.toWire.length)
    (hsize : event.toWire.length < 18446744073709551616) :
    WholeFields (event.toWire.take maxDatagram) ↔
      event.headToWire.length = maxDatagram := by
  constructor
  · intro h
    have hfront : (event.toWire.take maxDatagram).length = maxDatagram := by
      rw [List.length_take]
      omega
    have hbehind : event.toWire.drop maxDatagram ≠ [] := by
      rw [ne_eq, List.drop_eq_nil_iff]
      omega
    have hstamp :
        (writeDelimited 1 event.stamp.toWire).length < maxDatagram := by
      have hshort := event.stamp.length_toWire_le
      have hfield : (writeDelimited 1 event.stamp.toWire).length ≤
          event.stamp.toWire.length + 2 :=
        length_writeDelimited_le (by decide) (by omega)
      rw [maxDatagram]
      omega
    have hname := length_le_writeBytes 2 (Bytes.ofText event.name)
    have hdata := length_le_writeDelimited 3 event.data.toWire
    have hlength := congrArg List.length event.toWire_eq
    simp only [headToWire, List.length_append] at hlength
    have hsame := List.take_append_drop maxDatagram event.toWire
    generalize event.toWire.take maxDatagram = front at h hfront hsame
    generalize event.toWire.drop maxDatagram = behind at hbehind hsame
    rw [toWire_eq, headToWire, List.append_assoc] at hsame
    have hinner := length_le_writeDelimited 1 event.stamp.toWire
    -- The cut is in front of the time, of the name or of the payload.
    obtain hnil | ⟨rest, rfl, hrest, hwhole⟩ := h.eq_nil_or_exists
      (fieldEnds_writeDelimited (by decide) (by decide) (by omega) _) hsame
    · rw [hnil] at hfront
      cases hfront
    · obtain hnil | ⟨rest', rfl, hrest', hwhole'⟩ :=
        hwhole.eq_nil_or_exists_writeBytes (by decide) (by decide) (by omega)
          hrest
      · rw [hnil, List.append_nil] at hfront
        omega
      · rw [← List.append_nil (writeDelimited 3 _)] at hrest'
        obtain hnil | ⟨rest'', -, hend, -⟩ := hwhole'.eq_nil_or_exists
          (fieldEnds_writeDelimited (by decide) (by decide) (by omega) _)
          hrest'
        · rw [hnil, List.append_nil] at hfront
          exact hfront
        · exact absurd (List.append_eq_nil_iff.mp hend).2 hbehind
  · intro h
    exact Datagram.wholeFields_of_decode (decode_take_toWire h)

end Event

/-- An event that is too long to be sent is taken without its payload if that
begins at the cut, and else it is counted as unread. -/
theorem Node.receive_event_of_gt {node : Node} {event : Event}
    {source : Endpoint} {now : Instant}
    (hlong : maxDatagram < event.toWire.length)
    (hsize : event.toWire.length < 18446744073709551616) :
    let later := node.receive .events event.toWire source now
    (event.headToWire.length = maxDatagram →
      Took source now node later .events (.event event.emptied)) ∧
    (event.headToWire.length ≠ maxDatagram →
      OnlyCounted (.busDecodeErrors .events) node later) := by
  intro later
  constructor
  · intro hcut
    exact took_receive (Event.decode_take_toWire hcut)
  · intro hcut
    cases hread : readDatagram (event.toWire.take maxDatagram) .events with
    | error fault => exact onlyCounted_receive hread
    | ok message =>
        have hwhole := wholeFields_of_readDatagram hread
        exact absurd ((Event.wholeFields_take_iff hlong hsize).mp hwhole) hcut

/-- Whatever a node knows, whatever an intake holds and whatever comes in: a
datagram is handled by its front, however long it is.

On the bus the front is never refused for its size. If it cannot be read it is
counted and nothing else changes, and if it can it is made of whole fields and
taken for a message. The front of an event or an announcement can be read if and
only if it is made of whole fields. So an event that is too long to be sent is
taken without its payload if that begins at the cut, and refused if not.

In the media stream the front of a longer datagram is refused if something is
wrong with its header or with the byte at the cut, and else a packet is offered
to the queue. For an unpadded packet whose header is not cut off this is the
same packet with a shorter payload. -/
theorem long_datagrams_are_cut_off (node : Node) (channel : BusChannel)
    (source : Endpoint) (now : Instant) (intake : Intake) (ssrc : UInt32)
    (datagram : Bytes) :
    let front := datagram.take maxDatagram
    let later := node.receive channel datagram source now
    let after := (intake.receive ssrc datagram).1
    (∀ fault, Node.readDatagram front channel = .error fault →
      fault.isDecode = true ∧
        Node.OnlyCounted (.busDecodeErrors channel) node later) ∧
    (∀ message, Node.readDatagram front channel = .ok message →
      WholeFields front ∧ Node.Took source now node later channel message) ∧
    (∀ draft, Event.schema.read .blank datagram = .ok draft →
      ((∃ event, Event.decode front = .ok event) ↔ WholeFields front)) ∧
    (∀ draft, Announcement.schema.read .blank datagram = .ok draft →
      ((∃ draft', Announcement.schema.read .blank front = .ok draft') ↔
        WholeFields front)) ∧
    (∀ event : Event, channel = .events → datagram = event.toWire →
      maxDatagram < datagram.length →
      datagram.length < 18446744073709551616 →
        (event.headToWire.length = maxDatagram →
          Node.Took source now node later .events (.event event.emptied)) ∧
        (event.headToWire.length ≠ maxDatagram →
          Node.OnlyCounted (.busDecodeErrors .events) node later)) ∧
    (maxPacket < datagram.length →
      (CutMalformed datagram → intake.Refused after) ∧
      (¬CutMalformed datagram →
        ∃ packet, Packet.read (datagram.take maxPacket) = .ok packet ∧
          Intake.Accepted (packet.withSsrc ssrc) intake after) ∧
      ∀ packet, Packet.read datagram = .ok packet →
        (datagram.headD 0).toNat / 32 % 2 = 0 →
        payloadStart datagram ≤ maxPacket →
          let cut := packet.cutTo (maxPacket - payloadStart datagram)
          cut.payload.length < packet.payload.length ∧
            Intake.Accepted (cut.withSsrc ssrc) intake after) := by
  intro front later after
  have hfits : front.length ≤ maxDatagram := List.length_take_le ..
  refine ⟨?_, ?_, ?_, ?_, ?_, Intake.receive_long⟩
  · intro fault hfault
    exact ⟨Node.isDecode_of_readDatagram hfits hfault,
      Node.onlyCounted_receive hfault⟩
  · intro message hmessage
    exact ⟨Node.wholeFields_of_readDatagram hmessage,
      Node.took_receive hmessage⟩
  · intro draft hdraft
    exact (Event.exists_decode_iff hfits).trans
      (Event.schema_isPlain.exists_read_iff hdraft maxDatagram)
  · intro draft hdraft
    exact Announcement.schema_isPlain.exists_read_iff hdraft maxDatagram
  · rintro event rfl rfl hlong hsize
    exact Node.receive_event_of_gt hlong hsize

/-! An event with a long name, a field that no message has, and a packet with a
long payload. -/

/-- An event with a name of so many letters. -/
def wordy (length : Nat) : Event :=
  ⟨String.ofList (List.replicate length 'x'), .zero, .raw [1]⟩

def strange : Bytes := writeDelimited 9 (List.replicate 1100 0)

/-- A packet with so many bytes of payload. -/
def bulky (size : Nat) : Bytes :=
  [0x80, 0x60, 0, 1, 0, 0, 0, 2, 0, 0, 0, 3] ++ List.replicate size 0

def bulkyPacket (size : Nat) : Packet :=
  ⟨false, 96, 1, 2, 3, [], none, List.replicate size 0⟩

/-- An intake that has taken in nothing yet. -/
def roomy : Intake where
  packets := { capacity := 4 }
  events := { capacity := 4 }
  policy := .dropOldest

theorem length_name_wordy (length : Nat) :
    (Bytes.ofText (wordy length).name).length = length := by
  rw [wordy, Bytes.length_ofText_ofList, List.map_replicate,
    List.sum_replicate_nat]
  exact Nat.mul_one length

theorem length_headToWire_wordy {length : Nat}
    (h : (writeVarint length).length = 2) (hpositive : 0 < length) :
    (wordy length).headToWire.length = length + 5 := by
  have hname := length_name_wordy length
  have hnonempty : (Bytes.ofText (wordy length).name).isEmpty = false := by
    rwa [List.isEmpty_eq_false_iff, ← List.length_pos_iff, hname]
  have hstamp : (writeDelimited 1 (wordy length).stamp.toWire).length = 2 :=
    show (writeDelimited 1 Timestamp.zero.toWire).length = 2 by decide +kernel
  have hkey := length_writeKey (show 2 < 16 by decide) .delimited
  rw [Event.headToWire, List.length_append, hstamp, writeBytes, hnonempty,
    if_neg (by decide), writeDelimited, List.length_append, List.length_append,
    hkey, hname, h]
  omega

theorem length_toWire_wordy (length : Nat) : (wordy length).toWire.length =
    (wordy length).headToWire.length + 5 := by
  have hdata : (writeDelimited 3 (wordy length).data.toWire).length = 5 :=
    show (writeDelimited 3 (Payload.raw [1]).toWire).length = 5 by
      decide +kernel
  rw [Event.toWire_eq, List.length_append, hdata]

theorem read_strange {M : Type} {schema : Schema M}
    (h : schema.fields.lookup 9 = none) (m : M) :
    schema.read m strange = .ok m :=
  Schema.read_of_carries (Schema.carries_unknown schema _ 9 _ m h (by decide)
    (by decide) (by rw [List.length_replicate]; decide) (by decide))

theorem length_bulky (size : Nat) : (bulky size).length = 12 + size := by
  rw [bulky, List.length_append, List.length_replicate]
  rfl

theorem read_bulky (size : Nat) :
    Packet.read (bulky size) = .ok (bulkyPacket size) :=
  rfl

/-- An event whose name ends at the cut and one whose name ends behind it, a
field that is cut off, a datagram of zeros and a packet with a long payload. -/
theorem long_datagrams_are_cut_off_of_samples :
    (WholeFields ((wordy 1019).toWire.take maxDatagram) ∧
      Node.Took speaker ⟨0⟩ listener
        (listener.receive .events (wordy 1019).toWire speaker ⟨0⟩) .events
        (.event (wordy 1019).emptied)) ∧
    ((∃ fault, Node.readDatagram ((wordy 1020).toWire.take maxDatagram)
        .events = .error fault ∧ fault.isDecode = true) ∧
      Node.OnlyCounted (.busDecodeErrors .events) listener
        (listener.receive .events (wordy 1020).toWire speaker ⟨0⟩)) ∧
    (((∃ event, Event.decode (strange.take maxDatagram) = .ok event) ↔
        WholeFields (strange.take maxDatagram)) ∧
      ((∃ draft, Announcement.schema.read .blank (strange.take maxDatagram) =
        .ok draft) ↔ WholeFields (strange.take maxDatagram))) ∧
    roomy.Refused (roomy.receive 7 (List.replicate 5000 0)).1 ∧
    (∃ packet, Packet.read ((bulky 5000).take maxPacket) = .ok packet ∧
      Intake.Accepted (packet.withSsrc 7) roomy
        (roomy.receive 7 (bulky 5000)).1) ∧
    Intake.Accepted (((bulkyPacket 5000).cutTo 4084).withSsrc 7) roomy
      (roomy.receive 7 (bulky 5000)).1 := by
  have hfull : (wordy 1019).headToWire.length = maxDatagram :=
    length_headToWire_wordy (by decide +kernel) (by decide)
  have hover : (wordy 1020).headToWire.length = 1025 :=
    length_headToWire_wordy (by decide +kernel) (by decide)
  have hcut : (wordy 1020).headToWire.length ≠ maxDatagram := by
    rw [hover]
    decide
  have hlong : maxDatagram < (wordy 1020).toWire.length ∧
      (wordy 1020).toWire.length < 18446744073709551616 := by
    rw [length_toWire_wordy, hover]
    decide
  obtain ⟨-, htook, -⟩ := long_datagrams_are_cut_off listener .events speaker
    ⟨0⟩ roomy 7 (wordy 1019).toWire
  obtain ⟨hunread, -, -, -, hrefused, -⟩ := long_datagrams_are_cut_off listener
    .events speaker ⟨0⟩ roomy 7 (wordy 1020).toWire
  obtain ⟨-, -, hevent, hannouncement, -⟩ := long_datagrams_are_cut_off listener
    .events speaker ⟨0⟩ roomy 7 strange
  obtain ⟨-, -, -, -, -, hzeros⟩ := long_datagrams_are_cut_off listener .events
    speaker ⟨0⟩ roomy 7 (List.replicate 5000 0)
  obtain ⟨-, -, -, -, -, hbulky⟩ := long_datagrams_are_cut_off listener .events
    speaker ⟨0⟩ roomy 7 (bulky 5000)
  have hsize : maxPacket < (bulky 5000).length := by
    rw [length_bulky]
    decide
  refine ⟨htook _ (Event.decode_take_toWire hfull),
    ⟨?_, (hrefused (wordy 1020) rfl rfl hlong.1 hlong.2).2 hcut⟩,
    ⟨hevent .blank (read_strange rfl _),
      hannouncement .blank (read_strange rfl _)⟩, ?_, ?_, ?_⟩
  · cases hread : Node.readDatagram ((wordy 1020).toWire.take maxDatagram)
        .events with
    | error fault => exact ⟨fault, rfl, (hunread fault hread).1⟩
    | ok message =>
        have hfields := Node.wholeFields_of_readDatagram hread
        exact absurd
          ((Event.wholeFields_take_iff hlong.1 hlong.2).mp hfields) hcut
  · refine (hzeros ?_).1 (.version ?_)
    · rw [List.length_replicate]
      decide
    · decide
  · refine (hbulky hsize).2.1 fun hmalformed => ?_
    cases hmalformed with
    | version h => exact h rfl
    | header h => exact absurd h (by decide)
    | emptyPadding h | padding h => exact absurd h (by decide)
  · exact ((hbulky hsize).2.2 (bulkyPacket 5000) (read_bulky 5000) rfl
      (by decide)).2

/-- An event is recorded without its payload, and a packet is queued without the
end of its payload. -/
theorem truncated_messages_are_taken_for_whole :
    (maxDatagram < (wordy 1019).toWire.length ∧
      (wordy 1019).emptied ≠ wordy 1019 ∧
      listener.latest.get? (wordy 1019).name = none ∧
      (listener.receive .events (wordy 1019).toWire speaker ⟨0⟩).latest.get?
        (wordy 1019).name = some (wordy 1019).emptied) ∧
    maxPacket < (bulky 5000).length ∧ roomy.packets.items = [] ∧
      (roomy.receive 7 (bulky 5000)).1.packets.items =
        [((bulkyPacket 5000).cutTo 4084).withSsrc 7] := by
  have hhead : (wordy 1019).headToWire.length = maxDatagram :=
    length_headToWire_wordy (by decide +kernel) (by decide)
  refine ⟨⟨?_, ?_, rfl, ?_⟩, ?_, rfl, ?_⟩
  · rw [length_toWire_wordy, hhead]
    decide
  · intro hsame
    have hdata := congrArg (·.data.value) hsame
    cases hdata
  · have htook : Node.Took speaker ⟨0⟩ listener
        (listener.receive .events (wordy 1019).toWire speaker ⟨0⟩) .events
        (.event (wordy 1019).emptied) :=
      Node.took_receive (Event.decode_take_toWire hhead)
    exact (htook.tookEvent.get?_latest _).trans (if_pos rfl)
  · rw [length_bulky]
    decide
  · have hread := read_take (read_bulky 5000) rfl
      (show payloadStart (bulky 5000) ≤ maxPacket by decide)
    rw [show maxPacket - payloadStart (bulky 5000) = 4084 from rfl] at hread
    have hqueued (packet : Packet) :
        (roomy.packets.offer roomy.policy packet).1.items = [packet] :=
      rfl
    rw [(Intake.accepted_receive hread).packets, hqueued]

end LanRelay
