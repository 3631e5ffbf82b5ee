/-
The participants of the bus, on a network that may lose, repeat, delay and
reorder datagrams.

The network keeps all that was ever sent. A datagram that was sent may come to
whom it is for at any later time, any number of times, or never. Each
participant goes by its own clock. What was asked to be sent, and the clock
readings at which datagrams were handled, are written down as it happens; no
step depends on them.
-/
import LanRelay.Bus.Node
import Mathlib.Logic.Function.Basic

namespace LanRelay

/-- Who takes part in the bus. A participant sends presence from one address and
has its event socket at another of the same host, reached through no link in
particular. -/
structure Participants (ι : Type) where
  settings : ι → BusSettings
  /-- Where the presence datagrams of a participant come from. -/
  presence : ι → Endpoint
  /-- Where the event socket of a participant is. -/
  address : ι → Endpoint
  /-- The room in the queue that a participant hands events on to, if it has
  one. -/
  room : ι → Option Nat
  toSourceHost : ∀ i, (settings i).deliveryTarget = .sourceHost
  address_eq : ∀ i, address i = .ofIp (presence i).ip (address i).port
  port_ne_zero : ∀ i, (address i).port ≠ 0
  presence_injective : Function.Injective presence
  address_injective : Function.Injective address

/-- A datagram on the network. -/
structure Parcel where
  source : Endpoint
  destination : Node.Destination
  bytes : Bytes
deriving DecidableEq

namespace Participants

variable {ι : Type} (members : Participants ι)

/-- The node of a participant that has heard of nobody. -/
def node (i : ι) : Node where
  settings := members.settings i
  address := members.address i
  delivery := (members.room i).map fun capacity => { capacity }

/-- What a participant sends to the group leaves from its presence socket, and
all else from its event socket. -/
def parcel (i : ι) : Node.Destination × Bytes → Parcel
  | (.group, bytes) => ⟨members.presence i, .group, bytes⟩
  | (.peer target, bytes) => ⟨members.address i, .peer target, bytes⟩

/-- The destinations of what comes in at a socket of a participant. -/
def socket (i : ι) : BusChannel → Node.Destination
  | .presence => .group
  | .events => .peer (members.address i)

end Participants

structure Network (ι : Type) where
  nodes : ι → Node
  /-- All datagrams that were ever sent. -/
  sent : List Parcel := []
  /-- All events that were asked to be sent, and who was asked. -/
  requested : List (ι × Event) := []
  /-- What the clocks showed to those who handled a datagram. -/
  readings : List (ι × Instant) := []

namespace Network

variable {ι : Type} (members : Participants ι)

/-- Nothing has been sent. -/
def initial : Network ι where
  nodes := members.node

variable [DecidableEq ι]

def withNode (net : Network ι) (i : ι) (node : Node) : Network ι :=
  { net with nodes := Function.update net.nodes i node }

/-- A participant announces itself. -/
def announce (net : Network ι) (i : ι) (now : Instant) : Network ι :=
  let result := (net.nodes i).announce now
  { net.withNode i result.1 with
    sent := net.sent ++ result.2.map (members.parcel i) }

/-- What a node sends for an event: nothing, if the event cannot be sent. -/
def outgoing : Except Fault (Nat × List (Node.Destination × Bytes)) →
    List (Node.Destination × Bytes)
  | .error _ => []
  | .ok (_, outgoing) => outgoing

/-- A participant is asked to send an event. -/
def send (net : Network ι) (i : ι) (event : Event) (now : Instant)
    (reaches : Endpoint → Bool) : Network ι :=
  let result := (net.nodes i).send event now reaches
  { net.withNode i result.1 with
    requested := net.requested ++ [(i, event)]
    sent := net.sent ++ (outgoing result.2).map (members.parcel i) }

/-- A datagram comes to a participant. -/
def receive (net : Network ι) (i : ι) (channel : BusChannel) (parcel : Parcel)
    (now : Instant) : Network ι :=
  { net.withNode i
      ((net.nodes i).receive channel parcel.bytes parcel.source now) with
    readings := net.readings ++ [(i, now)] }

/-- Whoever a participant hands events on to does something with the queue. -/
def withDelivery (net : Network ι) (i : ι) (queue : Queue Event) : Network ι :=
  net.withNode i { net.nodes i with delivery := some queue }

inductive Step (net : Network ι) : Network ι → Prop where
  | announce (i : ι) (now : Instant) : Step net (net.announce members i now)
  | send (i : ι) (event : Event) (now : Instant) (reaches : Endpoint → Bool) :
      Step net (net.send members i event now reaches)
  /-- A datagram that was sent comes to one whom it is for. -/
  | receive (i : ι) (channel : BusChannel) (parcel : Parcel) (now : Instant)
      (hsent : parcel ∈ net.sent)
      (hsocket : parcel.destination = members.socket i channel) :
      Step net (net.receive i channel parcel now)
  /-- An event is taken from the queue of a participant. -/
  | take (i : ι) (queue : Queue Event)
      (hdelivery : (net.nodes i).delivery = some queue) :
      Step net (net.withDelivery i queue.receive.1)
  /-- The queue of a participant is closed. -/
  | closeQueue (i : ι) (queue : Queue Event)
      (hdelivery : (net.nodes i).delivery = some queue) :
      Step net (net.withDelivery i queue.close)

inductive Reachable : Network ι → Prop where
  | initial : Reachable (initial members)
  | step {net net' : Network ι} :
      Reachable net → Step members net net' → Reachable net'

end Network

end LanRelay
