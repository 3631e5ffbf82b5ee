/-
A node of the bus.

It announces itself to the group and to the peers that it hears of, keeps the
latest event of each name, hands events on to a queue, and sends events to
every live peer. Only presence datagrams add peers; the announcements that come
in at the event socket refresh them.
-/
import LanRelay.Bus.Datagram
import LanRelay.Bus.Table
import LanRelay.Flow.Queue
import LanRelay.Net.Address.Printer
import LanRelay.Stats.Tally

namespace LanRelay

structure Node where
  settings : BusSettings
  /-- The address of the event socket, as it is announced. -/
  address : Endpoint
  table : PeerTable := .empty
  /-- The latest event of each name. -/
  latest : Keyed String Event := .empty
  /-- Where events are handed on to. -/
  delivery : Option (Queue Event) := none
  tally : Tally := .none

namespace Node

def ttl (node : Node) : Span := .ofMillis node.settings.peerTtlMs.toNat

/-- The announcement that a node sends. -/
def announcement (node : Node) (now : Instant) : Announcement where
  host := node.address.ip.render
  port := node.address.port
  service := node.settings.service
  sentAt := .ofInstant now
  receivedAt := none

/-- Where a datagram goes. -/
inductive Destination where
  | group
  | peer (address : Endpoint)
deriving DecidableEq, Repr

/-- Count and remove the peers that are no longer live. -/
def sweep (node : Node) (now : Instant) : Node :=
  let stale := node.table.staleKeys now node.ttl
  { node with
    table := node.table.sweep now node.ttl
    tally := node.tally.add .peersEvicted stale.length }

/-- The addresses of the live peers. -/
def targets (node : Node) (now : Instant) : List Endpoint :=
  node.table.liveTargets now node.ttl node.settings.deliveryTarget

/-- One round of presence: announce to the group, remove the peers that are no
longer live, and announce to each of the others. A node whose announcement does
not fit into a datagram does none of this. -/
def announce (node : Node) (now : Instant) :
    Node × List (Destination × Bytes) :=
  match (node.announcement now).encode with
  | .error _ => (node, [])
  | .ok bytes =>
      let node := node.sweep now
      (node, (.group, bytes) ::
        (node.targets now).map fun target => (.peer target, bytes))

/-- Take an announcement from a presence socket. -/
def recordPeer (node : Node) (source : Endpoint)
    (announcement : Announcement) (now : Instant) : Node :=
  { node with
    table := node.table.put source (announcement.stamped (.ofInstant now))
    tally := node.tally.count .announcementsReceived }

/-- Take an announcement from an event socket. -/
def refreshPeer (node : Node) (source : Endpoint)
    (announcement : Announcement) (now : Instant) : Node :=
  { node with
    table := node.table.refresh source (announcement.stamped (.ofInstant now)) }

/-- Hand an event on. It is lost if the queue is full. -/
def deliver (node : Node) (event : Event) : Node :=
  match node.delivery with
  | none => node
  | some queue =>
      match queue.trySend event with
      | (queue, .full) =>
          { node with
            delivery := some queue
            tally := node.tally.count .eventsDropped }
      | (queue, _) => { node with delivery := some queue }

/-- Take an event. -/
def recordEvent (node : Node) (event : Event) : Node :=
  { node with
    latest := node.latest.put event.name event
    tally := node.tally.count .eventsReceived }.deliver event

/-- Read a datagram of a channel. -/
def readDatagram (bytes : Bytes) : BusChannel → Except Fault Datagram
  | .presence => (Announcement.decode bytes).map .announcement
  | .events => Datagram.decode bytes

/-- Handle the bytes of a datagram of a channel. -/
def handle (node : Node) (channel : BusChannel) (bytes : Bytes)
    (source : Endpoint) (now : Instant) : Node :=
  match channel, readDatagram bytes channel with
  | _, .error _ =>
      { node with tally := node.tally.count (.busDecodeErrors channel) }
  | .presence, .ok (.announcement a) => node.recordPeer source a now
  | .presence, .ok (.event _) => node
  | .events, .ok (.announcement a) => node.refreshPeer source a now
  | .events, .ok (.event e) => node.recordEvent e

/-- Receive a datagram. No more than 1024 bytes of it are seen. -/
def receive (node : Node) (channel : BusChannel) (datagram : Bytes)
    (source : Endpoint) (now : Instant) : Node :=
  node.handle channel (datagram.take maxDatagram) source now

/-- Send an event to every live peer, and count those to which a datagram
could be sent. -/
def send (node : Node) (event : Event) (now : Instant)
    (reaches : Endpoint → Bool) :
    Node × Except Fault (Nat × List (Destination × Bytes)) :=
  match event.encode with
  | .error fault => (node, .error fault)
  | .ok bytes =>
      let reached := (node.targets now).filter reaches
      ({ node with tally := node.tally.add .eventsSent reached.length },
        .ok (reached.length, reached.map fun target => (.peer target, bytes)))

end Node

end LanRelay
