/-
The settings of a relay.

Every setting has a default, so that the empty configuration is complete.
-/
import LanRelay.Net.Address

namespace LanRelay

/-- Where to send events for a peer. -/
inductive DeliveryTarget where
  /-- To the address its announcement came from, at the port it names. -/
  | sourceHost
  /-- To the host and port that its announcement names. -/
  | selfReported
deriving DecidableEq, Repr

/-- Which item a full queue gives up for a new one. -/
inductive DropPolicy where
  | dropOldest
  | dropNewest
deriving DecidableEq, Repr

/-- The bus: presence on a multicast group, events to each peer. -/
structure BusSettings where
  group : Endpoint4 := ⟨⟨239, 20, 20, 21⟩, 10000⟩
  interface : Ipv4 := .unspecified
  service : String := "webrtc-proxy"
  announceIntervalMs : UInt64 := 1000
  /-- A peer that is silent for longer is forgotten. -/
  peerTtlMs : UInt64 := 10000
  deliveryTarget : DeliveryTarget := .sourceHost
  deliveryCapacity : UInt64 := 256
  /-- Hear the datagrams of this host, too. -/
  multicastLoop : Bool := true
deriving DecidableEq, Repr

/-- The media stream that is taken in. -/
structure MediaSettings where
  listen : Endpoint := .v4 ⟨⟨239, 20, 20, 20⟩, 5000⟩
  readBufferBytes : UInt64 := 8388608
  /-- The stream identifier of every packet that goes out. -/
  ssrc : UInt32 := 1598958097
  queueCapacity : UInt64 := 1024
deriving DecidableEq, Repr

/-- What sessions negotiate. -/
structure SessionSettings where
  codec : String := "VP8"
  /-- The longest frame that is read from a data channel. -/
  frameBytes : UInt64 := 1024
deriving DecidableEq, Repr

/-- The queues in front of the sinks. -/
structure SinkSettings where
  rtpCapacity : UInt64 := 512
  eventCapacity : UInt64 := 64
  dropPolicy : DropPolicy := .dropOldest
  /-- A sink that drops so many items in a row is removed; zero removes
  none. -/
  maxConsecutiveDrops : UInt32 := 0
deriving DecidableEq, Repr

structure Blueprint where
  bus : BusSettings := {}
  rtp : MediaSettings := {}
  session : SessionSettings := {}
  sinks : SinkSettings := {}
deriving DecidableEq, Repr

namespace DeliveryTarget

def name : DeliveryTarget → String
  | sourceHost => "source_host"
  | selfReported => "self_reported"

end DeliveryTarget

namespace DropPolicy

def name : DropPolicy → String
  | dropOldest => "drop_oldest"
  | dropNewest => "drop_newest"

end DropPolicy

end LanRelay
