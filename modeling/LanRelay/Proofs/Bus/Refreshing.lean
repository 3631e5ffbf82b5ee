/-
What an announcement does to a node that gets it at its event socket.

It brings the receive times of the peers at its source up to date and does
nothing else, unless it can be read as an event. It can if it names no port,
its host is written like a time and its service like a payload, as they are
when they are empty. Then it is taken for an event without a name.

Main statements: `Event.decode_announcement_iff` and
`announcement_only_refreshes_unless_spelled_as_event`.
-/
import LanRelay.Proofs.Bus.Handling
import LanRelay.Proofs.Bus.Kinds

namespace LanRelay

open LanRelay.Wire

/-! How an announcement is read as an event. -/

/-- The bytes are the fields of a message that stands inside another one. -/
def Wire.Schema.ReadsInside {M : Type} (schema : Schema M) (blank : M)
    (bytes : Bytes) (m : M) : Prop :=
  schema.mergeUntil (Schema.maxDepth - 1) 0 blank bytes = .ok (m, [])

/-- The announcement is written like the event: it has no port, its host is
written like the time of the event and its service like the payload. -/
structure Announcement.SpelledAs (announcement : Announcement) (event : Event) :
    Prop where
  port : announcement.port = 0
  name : event.name = ""
  stamp : Timestamp.schema.ReadsInside .zero (Bytes.ofText announcement.host)
    event.stamp
  data : Payload.schema.ReadsInside (.raw [])
    (Bytes.ofText announcement.service) event.data

namespace Announcement

variable {announcement : Announcement}

/-- The end of an announcement on the wire. -/
def timesToWire (announcement : Announcement) : Bytes :=
  writeDelimited 4 announcement.sentAt.toWire ++
    match announcement.receivedAt with
    | none => []
    | some ts => writeDelimited 5 ts.toWire

theorem toWire_eq (announcement : Announcement) :
    announcement.toWire =
      writeBytes 1 (Bytes.ofText announcement.host) ++
        (writeNumber 2 announcement.port.toNat ++
          (writeBytes 3 (Bytes.ofText announcement.service) ++
            announcement.timesToWire)) := by
  have hassoc (host port service sent received : Bytes) :
      host ++ port ++ service ++ sent ++ received =
        host ++ (port ++ (service ++ (sent ++ received))) := by
    simp only [List.append_assoc]
  exact hassoc ..

/-- An event has no field for the times of an announcement. -/
theorem carries_timesToWire
    (hshort : announcement.timesToWire.length ≤ maxDatagram)
    (draft : Event.Draft) :
    Event.schema.Carries Schema.maxDepth announcement.timesToWire draft
      draft := by
  obtain ⟨host, port, service, sentAt, receivedAt⟩ := announcement
  have hsent := length_le_writeDelimited 4 sentAt.toWire
  simp only [timesToWire, List.length_append, maxDatagram] at hshort
  have hfirst := Schema.carries_unknown Event.schema Schema.maxDepth 4
    sentAt.toWire draft rfl (by decide) (by decide) (by omega) (by decide)
  cases receivedAt with
  | none => exact hfirst.append (Schema.Carries.refl _ _ _)
  | some ts =>
      have hreceived := length_le_writeDelimited 5 ts.toWire
      dsimp only at hshort
      have hsecond := Schema.carries_unknown Event.schema Schema.maxDepth 5
        ts.toWire draft rfl (by decide) (by decide) (by omega) (by decide)
      exact hfirst.append hsecond

end Announcement

/-- What is left out is read as blank. -/
theorem Wire.Schema.ReadsInside.getD_eq {M : Type} {schema : Schema M}
    {blank m : M} {bytes : Bytes} (h : schema.ReadsInside blank bytes m) :
    (if bytes.isEmpty then none else some m).getD blank = m := by
  split
  · rename_i hempty
    rw [List.isEmpty_iff.mp hempty, ReadsInside, mergeUntil_nil] at h
    cases h
    rfl
  · rfl

/-- A text in the place of the time of an event. -/
theorem Event.mergeUntil_stamp_iff {draft : Event.Draft} {value rest : Bytes}
    {read : Event.Draft × Bytes}
    (hlength : value.length < 18446744073709551616) :
    Event.schema.mergeUntil Schema.maxDepth 0 draft
        (writeBytes 1 value ++ rest) = .ok read ↔
      ∃ ts, Timestamp.schema.ReadsInside (draft.stamp.getD .zero) value ts ∧
        Event.schema.mergeUntil Schema.maxDepth 0
          { draft with
            stamp := if value.isEmpty then draft.stamp else some ts }
          rest = .ok read := by
  have hiff := @Schema.mergeUntil_writeBytes_iff _ _ Event.schema _ _ _ _
    Schema.maxDepth 0 1 draft value rest read Timestamp.schema_isLocal rfl
    (by decide) (by decide) hlength (by decide) (Nat.zero_le _)
  rw [hiff]
  refine exists_congr fun ts => and_congr_right' ?_
  split <;> rfl

/-- A text in the place of the payload of an event. -/
theorem Event.mergeUntil_data_iff {draft : Event.Draft} {value rest : Bytes}
    {read : Event.Draft × Bytes}
    (hlength : value.length < 18446744073709551616) :
    Event.schema.mergeUntil Schema.maxDepth 0 draft
        (writeBytes 3 value ++ rest) = .ok read ↔
      ∃ payload,
        Payload.schema.ReadsInside (draft.data.getD (.raw [])) value payload ∧
        Event.schema.mergeUntil Schema.maxDepth 0
          { draft with
            data := if value.isEmpty then draft.data else some payload }
          rest = .ok read := by
  have hiff := @Schema.mergeUntil_writeBytes_iff _ _ Event.schema _ _ _ _
    Schema.maxDepth 0 3 draft value rest read Payload.schema_isLocal rfl
    (by decide) (by decide) hlength (by decide) (Nat.zero_le _)
  rw [hiff]
  refine exists_congr fun payload => and_congr_right' ?_
  split <;> rfl

/-- How an announcement without a port is read as an event. -/
theorem Event.read_announcement_iff {announcement : Announcement}
    (hport : announcement.port = 0)
    (hfits : announcement.toWire.length ≤ maxDatagram) {draft : Event.Draft} :
    Event.schema.read .blank announcement.toWire = .ok draft ↔
      ∃ ts payload,
        Timestamp.schema.ReadsInside .zero (Bytes.ofText announcement.host)
          ts ∧
        Payload.schema.ReadsInside (.raw [])
          (Bytes.ofText announcement.service) payload ∧
        draft =
          ⟨if (Bytes.ofText announcement.host).isEmpty then none else some ts,
            "",
            if (Bytes.ofText announcement.service).isEmpty then none
              else some payload⟩ := by
  have hhost := length_le_writeBytes 1 (Bytes.ofText announcement.host)
  have hservice := length_le_writeBytes 3 (Bytes.ofText announcement.service)
  rw [announcement.toWire_eq] at hfits ⊢
  simp only [List.length_append, maxDatagram] at hfits
  have htimes (draft : Event.Draft) := Announcement.carries_timesToWire
    (show announcement.timesToWire.length ≤ maxDatagram by
      rw [maxDatagram]; omega) draft 0 [] (Nat.le_refl 0)
  simp only [List.append_nil, Schema.mergeUntil_nil] at htimes
  rw [hport, UInt16.toNat_zero, writeNumber, if_pos rfl, List.nil_append,
    Schema.read, map_eq_ok_iff]
  constructor
  · rintro ⟨read, hmerge, rfl⟩
    obtain ⟨ts, hts, hrest⟩ :=
      (Event.mergeUntil_stamp_iff (by omega)).mp hmerge
    obtain ⟨payload, hpayload, hend⟩ :=
      (Event.mergeUntil_data_iff (by omega)).mp hrest
    rw [htimes] at hend
    cases hend
    exact ⟨ts, payload, hts, hpayload, rfl⟩
  · rintro ⟨ts, payload, hts, hpayload, rfl⟩
    refine ⟨(_, []), (Event.mergeUntil_stamp_iff (by omega)).mpr
      ⟨ts, hts, (Event.mergeUntil_data_iff (by omega)).mpr
        ⟨payload, hpayload, htimes _⟩⟩, rfl⟩

/-- An announcement is read as the events that it is written like. -/
theorem Event.decode_announcement_iff {announcement : Announcement}
    {event : Event} (hfits : announcement.toWire.length ≤ maxDatagram) :
    Event.decode announcement.toWire = .ok event ↔
      announcement.SpelledAs event := by
  constructor
  · intro hevent
    have hread := Announcement.decode_toWire hfits
    obtain ⟨hname, hport⟩ := unmarked_of_decode hevent hread
    obtain ⟨-, draft, hdraft, rfl⟩ := Event.decode_eq_ok_iff.mp hevent
    obtain ⟨ts, payload, hstamp, hdata, rfl⟩ :=
      (Event.read_announcement_iff hport hfits).mp hdraft
    refine ⟨hport, hname, ?_, ?_⟩
    · rwa [hstamp.getD_eq]
    · rwa [hdata.getD_eq]
  · intro h
    refine Event.decode_eq_ok_iff.mpr ⟨hfits, _,
      (Event.read_announcement_iff h.port hfits).mpr
        ⟨event.stamp, event.data, h.stamp, h.data, rfl⟩, ?_⟩
    rw [h.stamp.getD_eq, h.data.getD_eq, ← h.name]

/-! What a node does with an announcement or an event. -/

namespace Node

/-- Nothing but the receive times of the peers at a source has changed. -/
structure OnlyRefreshed (source : Endpoint) (now : Instant)
    (node later : Node) : Prop where
  latest : later.latest = node.latest
  delivery : later.delivery = node.delivery
  tally : later.tally = node.tally
  settings : later.settings = node.settings
  address : later.address = node.address
  get?_table : ∀ key, later.table.get? key =
    (node.table.get? key).map fun entry =>
      if PeerTable.isSender source key entry then
        entry.stamped (.ofInstant now)
      else entry

theorem onlyRefreshed_refreshPeer (node : Node) (source : Endpoint)
    (announcement : Announcement) (now : Instant) :
    OnlyRefreshed source now node
      (node.refreshPeer source announcement now) where
  latest := rfl
  delivery := rfl
  tally := rfl
  settings := rfl
  address := rfl
  get?_table _ := Keyed.get?_mapValues ..

/-- A node that has taken an event without a name: it is counted, it is the
latest event without a name, and it is handed on if there is room. -/
structure TookUnnamed (event : Event) (node later : Node) : Prop where
  unnamed : event.name = ""
  received : later.tally.get .eventsReceived =
    node.tally.get .eventsReceived + 1
  table : later.table = node.table
  get?_latest : ∀ name, later.latest.get? name =
    if name = "" then some event else node.latest.get? name
  queued : later.queued = node.queued ∨ later.queued = node.queued ++ [event]

theorem get_received_deliver (node : Node) (event : Event) :
    (node.deliver event).tally.get .eventsReceived =
      node.tally.get .eventsReceived := by
  unfold deliver
  split
  · rfl
  · split
    · exact node.tally.get_count .eventsDropped .eventsReceived
    · rfl

theorem tookUnnamed_recordEvent (node : Node) {event : Event}
    (h : event.name = "") :
    TookUnnamed event node (node.recordEvent event) := by
  obtain ⟨delivery, tally, hrecord⟩ := node.recordEvent_eq event
  constructor
  · exact h
  · rw [recordEvent, get_received_deliver]
    exact node.tally.get_count .eventsReceived .eventsReceived
  · rw [hrecord]
  · intro name
    rw [hrecord, ← h]
    exact Keyed.get?_put ..
  · exact queued_deliver _ event

/-- What is read as an announcement is one that fits into a datagram, so all of
it is received. -/
theorem receive_toWire {node : Node} {announcement : Announcement}
    (hfits : announcement.toWire.length ≤ maxDatagram) (source : Endpoint)
    (now : Instant) :
    node.receive .events announcement.toWire source now =
      match Event.decode announcement.toWire with
      | .ok event => node.recordEvent event
      | .error _ => node.refreshPeer source announcement now := by
  have hread := Announcement.decode_toWire hfits
  rw [receive, List.take_of_length_le hfits]
  cases hevent : Event.decode announcement.toWire with
  | ok event =>
      simp only [handle, readDatagram, Datagram.decode, hevent]
  | error fault =>
      simp only [handle, readDatagram, Datagram.decode, hevent,
        Event.decode_isDecode hfits hevent, if_true, hread]

end Node

/-- An announcement that comes in at an event socket does nothing but refresh
the peers at its source, if it names a port, and also if it names none and is
not written like an event. If it is, the node takes that event, which has no
name. -/
theorem announcement_only_refreshes_unless_spelled_as_event
    (announcement : Announcement) (bytes : Bytes)
    (hencode : announcement.encode = .ok bytes) (node : Node)
    (source : Endpoint) (now : Instant) :
    let later := node.receive .events bytes source now
    (announcement.port ≠ 0 → Node.OnlyRefreshed source now node later) ∧
    ((∀ event, ¬announcement.SpelledAs event) →
      Node.OnlyRefreshed source now node later) ∧
    ∀ event, announcement.SpelledAs event →
      Node.TookUnnamed event node later := by
  intro later
  obtain ⟨rfl, hfits⟩ := length_le_of_bounded hencode
  have hlater : later = _ := node.receive_toWire hfits source now
  have hrefreshed : (∀ event, ¬announcement.SpelledAs event) →
      Node.OnlyRefreshed source now node later := by
    intro hnone
    cases hevent : Event.decode announcement.toWire with
    | ok event =>
        exact absurd ((Event.decode_announcement_iff hfits).mp hevent)
          (hnone event)
    | error fault =>
        rw [hlater, hevent]
        exact node.onlyRefreshed_refreshPeer source announcement now
  refine ⟨?_, hrefreshed, ?_⟩
  · intro hport
    exact hrefreshed fun event hspelled => hport hspelled.port
  · intro event hspelled
    rw [hlater, (Event.decode_announcement_iff hfits).mpr hspelled]
    exact node.tookUnnamed_recordEvent hspelled.name

/-- A node that has not heard anything yet. -/
def listener : Node where
  settings := {}
  address := .v4 ⟨⟨10, 0, 0, 1⟩, 7000⟩

def speaker : Endpoint := .v4 ⟨⟨10, 0, 0, 5⟩, 5000⟩

/-- With a port, with a host that is no time, and with neither. -/
theorem announcement_only_refreshes_unless_spelled_as_event_of_samples :
    Node.OnlyRefreshed speaker ⟨0⟩ listener
      (listener.receive .events [10, 1, 104, 16, 136, 39, 34, 0] speaker ⟨0⟩) ∧
    Node.OnlyRefreshed speaker ⟨0⟩ listener
      (listener.receive .events [10, 1, 104, 34, 0] speaker ⟨0⟩) ∧
    Node.TookUnnamed ⟨"", .zero, .raw []⟩ listener
      (listener.receive .events [34, 0] speaker ⟨0⟩) := by
  refine ⟨?_, ?_, ?_⟩
  · exact (announcement_only_refreshes_unless_spelled_as_event
      ⟨"h", 5000, "", .zero, none⟩ _ (by cbv) listener speaker ⟨0⟩).1
      (by decide)
  · refine (announcement_only_refreshes_unless_spelled_as_event
      ⟨"h", 0, "", .zero, none⟩ _ (by cbv) listener speaker ⟨0⟩).2.1 ?_
    intro event hspelled
    have hfault : (Timestamp.schema.mergeUntil 99 0 .zero
        (Bytes.ofText "h")).toOption = none := by
      decide +kernel
    rw [show Timestamp.schema.mergeUntil 99 0 .zero (Bytes.ofText "h") = _ from
      hspelled.stamp] at hfault
    cases hfault
  · refine (announcement_only_refreshes_unless_spelled_as_event
      ⟨"", 0, "", .zero, none⟩ _ (by cbv) listener speaker ⟨0⟩).2.2 _ ?_
    exact ⟨rfl, rfl, Schema.mergeUntil_nil, Schema.mergeUntil_nil⟩

/-- An announcement that says nothing is taken for an event. -/
theorem blank_announcement_is_taken_for_event :
    (⟨"", 0, "", .zero, none⟩ : Announcement).encode = .ok [34, 0] ∧
      listener.latest.get? "" = none ∧
      (listener.receive .events [34, 0] speaker ⟨0⟩).latest.get? "" =
        some ⟨"", .zero, .raw []⟩ := by
  have hread : Datagram.decode [34, 0] = .ok (.event ⟨"", .zero, .raw []⟩) := by
    cbv
  refine ⟨by cbv, rfl, ?_⟩
  rw [Node.receive, List.take_of_length_le (by decide)]
  simp only [Node.handle, Node.readDatagram, hread]
  rfl

end LanRelay
