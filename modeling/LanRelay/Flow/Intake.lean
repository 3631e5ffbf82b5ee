/-
The intake: the two queues between what comes in and the fan-outs.

Datagrams of the media stream are read as RTP packets and get the one stream
identifier of the relay. Ones that are not packets are counted and dropped.
-/
import LanRelay.Bus.Message
import LanRelay.Flow.Queue
import LanRelay.Rtp.Packet
import LanRelay.Stream
import LanRelay.Stats.Tally

namespace LanRelay

/-- What is measured of the media stream. -/
structure IntakeMetrics where
  received : Nat := 0
  dropped : Nat := 0
  malformed : Nat := 0
  /-- The length of the queue after the last packet. -/
  queued : Nat := 0
deriving DecidableEq, Repr

structure Intake where
  packets : Queue Rtp.Packet
  events : Queue Event
  policy : DropPolicy
  /-- The streams whose receiving ends have been given away. -/
  taken : List Stream := []
  metrics : IntakeMetrics := {}
  tally : Tally := .none

namespace Intake

/-- An intake with room for so many packets and events. -/
def withCapacities? (rtp event : Nat) (policy : DropPolicy) :
    Option Intake := do
  let packets ← Queue.withCapacity? rtp
  let events ← Queue.withCapacity? event
  return { packets, events, policy }

def ofBlueprint? (blueprint : Blueprint) : Option Intake :=
  withCapacities? blueprint.rtp.queueCapacity.toNat
    blueprint.bus.deliveryCapacity.toNat blueprint.sinks.dropPolicy

/-- Take the receiving end of a stream, and say whether it was still there. -/
def take (intake : Intake) (stream : Stream) : Intake × Bool :=
  ({ intake with taken := stream :: intake.taken },
    !intake.taken.contains stream)

/-- Count a datagram that is not a packet. -/
def reject (intake : Intake) : Intake :=
  { intake with
    metrics := { intake.metrics with
      malformed := intake.metrics.malformed + 1 }
    tally := intake.tally.count .packetDecodeErrors }

/-- Queue a packet, and say whether the source goes on. It stops at a closed
queue. -/
def offerPacket (intake : Intake) (packet : Rtp.Packet) : Intake × Bool :=
  let (packets, outcome) := intake.packets.offer intake.policy packet
  let metrics := intake.metrics
  match outcome with
  | .closed => ({ intake with packets }, false)
  | .queued =>
      ({ intake with
          packets, metrics := { metrics with queued := packets.size } },
        true)
  | .droppedOldest | .droppedNewest =>
      ({ intake with
          packets
          metrics := { metrics with
            queued := packets.size, dropped := metrics.dropped + 1 } },
        true)

/-- Take in a datagram of the media stream, and say whether the source goes on.
No more than 4096 bytes of a datagram are seen. -/
def receive (intake : Intake) (ssrc : UInt32) (datagram : Bytes) :
    Intake × Bool :=
  let intake := { intake with
    metrics := { intake.metrics with received := intake.metrics.received + 1 }
    tally := intake.tally.count .packetsReceived }
  match Rtp.Packet.parse (datagram.take Rtp.maxPacket) with
  | .error _ => (intake.reject, true)
  | .ok packet => intake.offerPacket (packet.withSsrc ssrc)

/-- Offer an event of this host. -/
def offerEvent (intake : Intake) (event : Event) : Intake × Offer :=
  let (events, outcome) := intake.events.offer intake.policy event
  ({ intake with events }, outcome)

/-- Send an event of the bus, which gives way to those that are queued. -/
def sendEvent (intake : Intake) (event : Event) : Intake × Queue.Sent :=
  let (events, sent) := intake.events.trySend event
  ({ intake with events }, sent)

/-- The next packet, for whoever has the receiving end. -/
def nextPacket (intake : Intake) : Polled (Rtp.Packet × Intake) :=
  intake.packets.poll.map fun (packet, packets) =>
    (packet, { intake with packets })

/-- The next event, for whoever has the receiving end. -/
def nextEvent (intake : Intake) : Polled (Event × Intake) :=
  intake.events.poll.map fun (event, events) =>
    (event, { intake with events })

/-- Close both queues. What they hold can still be taken. -/
def close (intake : Intake) : Intake :=
  { intake with
    packets := intake.packets.close
    events := intake.events.close }

end Intake

end LanRelay
