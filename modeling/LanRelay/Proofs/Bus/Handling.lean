/-
What a datagram does to a node, and where a node sends to.

Main statements: `Node.hear_spec`, by which a node does one of four things with
a datagram, `Node.announce_spec`, and `PeerTable.exists_of_mem_liveTargets`.
-/
import LanRelay.Bus.Node
import LanRelay.Proofs.Flow.Waiting
import LanRelay.Proofs.Keyed
import LanRelay.Proofs.Net.Order
import LanRelay.Proofs.Outcome
import LanRelay.Proofs.Time.Stamps

namespace LanRelay

/-- A datagram as a node comes by it. -/
structure Heard where
  channel : BusChannel
  bytes : Bytes
  source : Endpoint
  /-- What the clock of the node shows when it handles the datagram. -/
  now : Instant

namespace Heard

/-- An announcement on a presence socket. -/
def Announces (heard : Heard) (announcement : Announcement) : Prop :=
  heard.channel = .presence ∧
    Announcement.decode heard.bytes = .ok announcement

/-- An announcement on an event socket. -/
def Refreshes (heard : Heard) (announcement : Announcement) : Prop :=
  heard.channel = .events ∧
    Datagram.decode heard.bytes = .ok (.announcement announcement)

/-- An event on an event socket. -/
def Tells (heard : Heard) (event : Event) : Prop :=
  heard.channel = .events ∧ Datagram.decode heard.bytes = .ok (.event event)

theorem not_announces_of_events {heard : Heard} (h : heard.channel = .events)
    (announcement : Announcement) : ¬ heard.Announces announcement := by
  rintro ⟨hpresence, -⟩
  rw [h] at hpresence
  cases hpresence

/-- What a datagram is read as on its channel. -/
def read (heard : Heard) : Except Fault Datagram :=
  Node.readDatagram heard.bytes heard.channel

theorem not_announces_of_read_error {heard : Heard} {fault : Fault}
    (h : heard.read = .error fault) (announcement : Announcement) :
    ¬ heard.Announces announcement := by
  rintro ⟨hpresence, hdecode⟩
  rw [read, hpresence, Node.readDatagram, hdecode] at h
  cases h

end Heard

namespace Node

/-- The events that wait for whoever they are handed on to. -/
def queued (node : Node) : List Event :=
  (node.delivery.map Queue.items).getD []

def hear (node : Node) (heard : Heard) : Node :=
  node.handle heard.channel heard.bytes heard.source heard.now

/-- Handing an event on touches nothing but the queue and the counts. -/
theorem deliver_eq (node : Node) (event : Event) :
    ∃ delivery tally, node.deliver event = { node with delivery, tally } := by
  unfold deliver
  split
  · exact ⟨_, _, rfl⟩
  · split <;> exact ⟨_, _, rfl⟩

theorem recordEvent_eq (node : Node) (event : Event) :
    ∃ delivery tally, node.recordEvent event = { node with
      latest := node.latest.put event.name event, delivery, tally } :=
  deliver_eq _ event

theorem queued_deliver (node : Node) (event : Event) :
    (node.deliver event).queued = node.queued ∨
      (node.deliver event).queued = node.queued ++ [event] := by
  unfold deliver
  cases hdelivery : node.delivery with
  | none => exact Or.inl rfl
  | some queue =>
      have hqueued : node.queued = queue.items := by simp [queued, hdelivery]
      rw [hqueued]
      rcases queue.trySend_eq event with h | h | h <;>
        simp [h, queued]

/-- What a node may do with a datagram. -/
inductive Hears (node : Node) (heard : Heard) : Node → Prop where
  | peer (announcement : Announcement) (h : heard.Announces announcement) :
      Hears node heard (node.recordPeer heard.source announcement heard.now)
  | refresh (announcement : Announcement)
      (h : heard.Refreshes announcement) :
      Hears node heard (node.refreshPeer heard.source announcement heard.now)
  | event (event : Event) (h : heard.Tells event) :
      Hears node heard (node.recordEvent event)
  /-- What cannot be read is counted. -/
  | malformed (fault : Fault) (h : heard.read = .error fault) :
      Hears node heard { node with
        tally := node.tally.count (.busDecodeErrors heard.channel) }

theorem hear_spec (node : Node) (heard : Heard) :
    Hears node heard (node.hear heard) := by
  obtain ⟨channel, bytes, source, now⟩ := heard
  cases channel with
  | presence =>
      cases hread : Announcement.decode bytes with
      | error fault =>
          simp only [hear, handle, readDatagram, hread, Except.map]
          refine .malformed fault ?_
          rw [Heard.read, readDatagram, hread]
          rfl
      | ok announcement =>
          simp only [hear, handle, readDatagram, hread, Except.map]
          exact .peer announcement ⟨rfl, hread⟩
  | events =>
      cases hread : Datagram.decode bytes with
      | error fault =>
          simp only [hear, handle, readDatagram, hread]
          exact .malformed fault hread
      | ok datagram =>
          cases datagram with
          | announcement announcement =>
              simp only [hear, handle, readDatagram, hread]
              exact .refresh announcement ⟨rfl, hread⟩
          | event event =>
              simp only [hear, handle, readDatagram, hread]
              exact .event event ⟨rfl, hread⟩

/-- What a node may do when it is time to announce itself. -/
inductive Announces (node : Node) (now : Instant) :
    Node × List (Destination × Bytes) → Prop where
  | silent (fault : Fault)
      (h : (node.announcement now).encode = .error fault) :
      Announces node now (node, [])
  | announced (bytes : Bytes)
      (h : (node.announcement now).encode = .ok bytes) :
      Announces node now (node.sweep now, (.group, bytes) ::
        ((node.sweep now).targets now).map fun target =>
          (.peer target, bytes))

theorem announce_spec (node : Node) (now : Instant) :
    Announces node now (node.announce now) := by
  unfold announce
  cases h : (node.announcement now).encode with
  | error fault => exact .silent fault h
  | ok bytes => exact .announced bytes h

theorem send_fst (node : Node) (event : Event) (now : Instant)
    (reaches : Endpoint → Bool) :
    ∃ tally, (node.send event now reaches).1 = { node with tally } := by
  unfold send
  cases event.encode with
  | error fault => exact ⟨_, rfl⟩
  | ok bytes => exact ⟨_, rfl⟩

/-- An event goes to those of the live targets that can be reached. -/
theorem eq_of_send_eq_ok {node : Node} {event : Event} {now : Instant}
    {reaches : Endpoint → Bool} {count : Nat}
    {sent : List (Destination × Bytes)}
    (h : (node.send event now reaches).2 = .ok (count, sent)) :
    ∃ bytes, event.encode = .ok bytes ∧
      count = ((node.targets now).filter reaches).length ∧
      sent = ((node.targets now).filter reaches).map fun target =>
        (.peer target, bytes) := by
  unfold send at h
  cases hencode : event.encode with
  | error fault => simp [hencode] at h
  | ok bytes =>
      simp only [hencode, Except.ok.injEq, Prod.mk.injEq] at h
      exact ⟨bytes, rfl, h.1.symm, h.2.symm⟩

/-- One that fits into a datagram goes out, once to each of them. -/
theorem exists_send_eq_ok {node : Node} {event : Event} {bytes : Bytes}
    (h : event.encode = .ok bytes) (now : Instant)
    (reaches : Endpoint → Bool) :
    ∃ sent, (node.send event now reaches).2 = .ok (sent.length, sent) ∧
      ∀ parcel, parcel ∈ sent ↔ ∃ target ∈ node.targets now,
        reaches target = true ∧ parcel = (.peer target, bytes) := by
  refine ⟨((node.targets now).filter reaches).map fun target =>
    (.peer target, bytes), ?_, fun parcel => ?_⟩
  · simp only [send, h, List.length_map]
  · simp only [List.mem_map, List.mem_filter, and_assoc, eq_comm]

end Node

/-! Live targets. -/

/-- The age of a live entry is known, and is not above the time to live. -/
theorem Announcement.exists_of_isLive {entry : Announcement} {now : Instant}
    {ttl : Span} (h : entry.isLive now ttl = true) :
    ∃ ts age, entry.receivedAt = some ts ∧ ts.ageAt now = .ok age ∧
      age ≤ ttl := by
  unfold isLive at h
  split at h
  · cases h
  · rename_i ts hreceived
    split at h
    · rename_i age hage
      exact ⟨ts, age, hreceived, hage, of_decide_eq_true h⟩
    · cases h

theorem PeerTable.exists_of_mem_liveTargets {table : PeerTable}
    {now : Instant} {ttl : Span} {target : Endpoint}
    (h : target ∈ table.liveTargets now ttl .sourceHost) :
    ∃ source entry, table.get? source = some entry ∧
      entry.isLive now ttl = true ∧ entry.port ≠ 0 ∧
      target = .ofIp source.ip entry.port := by
  obtain ⟨⟨source, entry⟩, hmem, htarget⟩ :=
    List.mem_filterMap.mp (Endpoint.mem_of_mem_sortDistinct h)
  refine ⟨source, entry, Keyed.mem_entries_iff.mp hmem, ?_⟩
  simp only [Announcement.deliveryAddress?] at htarget
  split at htarget
  · rename_i hlive
    split at htarget
    · cases htarget
    · rename_i hport
      exact ⟨hlive, hport, (Option.some.inj htarget).symm⟩
  · cases htarget

/-! Runs of a node. -/

/-- What a node does. -/
inductive NodeAct where
  /-- It handles a datagram, whatever that holds and wherever it is from. -/
  | hear (heard : Heard) (hclock : heard.now.OnClock)
  /-- It announces itself, and removes the peers that are no longer live. -/
  | announce (now : Instant)
  | send (event : Event) (now : Instant) (reaches : Endpoint → Bool)

def NodeAct.heard? : NodeAct → Option Heard
  | hear heard _ => some heard
  | announce _ | send .. => none

namespace Node

def act (node : Node) : NodeAct → Node
  | .hear heard _ => node.hear heard
  | .announce now => (node.announce now).1
  | .send event now reaches => (node.send event now reaches).1

def run (node : Node) (acts : List NodeAct) : Node := acts.foldl act node

@[simp]
theorem run_nil (node : Node) : node.run [] = node := rfl

@[simp]
theorem run_cons (node : Node) (act : NodeAct) (acts : List NodeAct) :
    node.run (act :: acts) = (node.act act).run acts := rfl

/-- What a node is set up with, no act changes. -/
theorem setup_act (node : Node) (act : NodeAct) :
    (node.act act).settings = node.settings ∧
      (node.act act).address = node.address := by
  cases act with
  | hear heard hclock =>
      have hhears := node.hear_spec heard
      simp only [Node.act]
      generalize node.hear heard = node' at hhears ⊢
      cases hhears with
      | event event htells =>
          obtain ⟨delivery, tally, hrecord⟩ := node.recordEvent_eq event
          rw [hrecord]
          exact ⟨rfl, rfl⟩
      | _ => exact ⟨rfl, rfl⟩
  | announce now =>
      have hannounces := node.announce_spec now
      simp only [Node.act]
      generalize node.announce now = result at hannounces ⊢
      cases hannounces <;> exact ⟨rfl, rfl⟩
  | send event now reaches =>
      obtain ⟨tally, hsend⟩ := node.send_fst event now reaches
      rw [Node.act, hsend]
      exact ⟨rfl, rfl⟩

theorem setup_run (node : Node) (acts : List NodeAct) :
    (node.run acts).settings = node.settings ∧
      (node.run acts).address = node.address := by
  induction acts generalizing node with
  | nil => exact ⟨rfl, rfl⟩
  | cons act acts ih =>
      obtain ⟨hsettings, haddress⟩ := node.setup_act act
      rw [run_cons, (ih _).1, (ih _).2]
      exact ⟨hsettings, haddress⟩

end Node

end LanRelay
