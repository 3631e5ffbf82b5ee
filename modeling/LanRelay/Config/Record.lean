/-
The settings as records, section by section.

Every field may be left out. Addresses are texts.
-/
import LanRelay.Config.Blueprint
import LanRelay.Document
import LanRelay.Net.Address.Parser
import LanRelay.Net.Address.Printer

namespace LanRelay

open Document

namespace DeliveryTarget

def ofDocument? (dialect : Dialect) (document : Document) :
    Option DeliveryTarget := do
  let name ← document.variant? dialect [sourceHost.name, selfReported.name]
  return if name = sourceHost.name then sourceHost else selfReported

def toDocument (target : DeliveryTarget) : Document := ofText target.name

instance : AsDocument DeliveryTarget := ⟨ofDocument?, toDocument⟩

end DeliveryTarget

namespace DropPolicy

def ofDocument? (dialect : Dialect) (document : Document) :
    Option DropPolicy := do
  let name ← document.variant? dialect [dropOldest.name, dropNewest.name]
  return if name = dropOldest.name then dropOldest else dropNewest

def toDocument (policy : DropPolicy) : Document := ofText policy.name

instance : AsDocument DropPolicy := ⟨ofDocument?, toDocument⟩

end DropPolicy

/-- A 64-bit word. -/
def word64OfDocument? (document : Document) : Option UInt64 :=
  (document.natural? UInt64.size).map UInt64.ofNat

/-- A 32-bit word. -/
def word32OfDocument? (document : Document) : Option UInt32 :=
  (document.natural? UInt32.size).map UInt32.ofNat

namespace BusSettings

def fieldNames : List String :=
  ["multicast_group", "interface", "service", "announce_interval_ms",
    "peer_ttl_ms", "delivery_target", "delivery_queue_capacity",
    "multicast_loop"]

def ofDocument? (dialect : Dialect) (document : Document) :
    Option BusSettings := do
  let default : BusSettings := {}
  let fields ← document.fields? dialect fieldNames
  let group ← fields.orElse "multicast_group"
    (·.text?.bind Endpoint4.parse?) default.group
  let interface ← fields.orElse "interface"
    (·.text?.bind Ipv4.parse?) default.interface
  let service ← fields.orElse "service" text? default.service
  let announceIntervalMs ← fields.orElse "announce_interval_ms"
    word64OfDocument? default.announceIntervalMs
  let peerTtlMs ← fields.orElse "peer_ttl_ms" word64OfDocument?
    default.peerTtlMs
  let deliveryTarget ← fields.orElse "delivery_target"
    (DeliveryTarget.ofDocument? dialect) default.deliveryTarget
  let deliveryCapacity ← fields.orElse "delivery_queue_capacity"
    word64OfDocument? default.deliveryCapacity
  let multicastLoop ← fields.orElse "multicast_loop" bool?
    default.multicastLoop
  return {
    group, interface, service, announceIntervalMs, peerTtlMs, deliveryTarget,
    deliveryCapacity, multicastLoop }

def toDocument (bus : BusSettings) : Document :=
  ofFields [("multicast_group", ofText bus.group.render),
    ("interface", ofText bus.interface.render),
    ("service", ofText bus.service),
    ("announce_interval_ms", .whole bus.announceIntervalMs.toNat),
    ("peer_ttl_ms", .whole bus.peerTtlMs.toNat),
    ("delivery_target", bus.deliveryTarget.toDocument),
    ("delivery_queue_capacity", .whole bus.deliveryCapacity.toNat),
    ("multicast_loop", .bool bus.multicastLoop)]

instance : AsDocument BusSettings := ⟨ofDocument?, toDocument⟩

end BusSettings

namespace MediaSettings

def fieldNames : List String :=
  ["listen", "read_buffer_bytes", "ssrc", "queue_capacity"]

def ofDocument? (dialect : Dialect) (document : Document) :
    Option MediaSettings := do
  let default : MediaSettings := {}
  let fields ← document.fields? dialect fieldNames
  let listen ← fields.orElse "listen" (·.text?.bind Endpoint.parse?)
    default.listen
  let readBufferBytes ← fields.orElse "read_buffer_bytes" word64OfDocument?
    default.readBufferBytes
  let ssrc ← fields.orElse "ssrc" word32OfDocument? default.ssrc
  let queueCapacity ← fields.orElse "queue_capacity" word64OfDocument?
    default.queueCapacity
  return { listen, readBufferBytes, ssrc, queueCapacity }

def toDocument (media : MediaSettings) : Document :=
  ofFields [("listen", ofText media.listen.render),
    ("read_buffer_bytes", .whole media.readBufferBytes.toNat),
    ("ssrc", .whole media.ssrc.toNat),
    ("queue_capacity", .whole media.queueCapacity.toNat)]

instance : AsDocument MediaSettings := ⟨ofDocument?, toDocument⟩

end MediaSettings

namespace SessionSettings

def fieldNames : List String := ["codec", "data_channel_frame_bytes"]

def ofDocument? (dialect : Dialect) (document : Document) :
    Option SessionSettings := do
  let default : SessionSettings := {}
  let fields ← document.fields? dialect fieldNames
  let codec ← fields.orElse "codec" text? default.codec
  let frameBytes ← fields.orElse "data_channel_frame_bytes"
    word64OfDocument? default.frameBytes
  return { codec, frameBytes }

def toDocument (session : SessionSettings) : Document :=
  ofFields [("codec", ofText session.codec),
    ("data_channel_frame_bytes", .whole session.frameBytes.toNat)]

instance : AsDocument SessionSettings := ⟨ofDocument?, toDocument⟩

end SessionSettings

namespace SinkSettings

def fieldNames : List String :=
  ["rtp_queue_capacity", "event_queue_capacity", "drop_policy",
    "max_consecutive_drops"]

def ofDocument? (dialect : Dialect) (document : Document) :
    Option SinkSettings := do
  let default : SinkSettings := {}
  let fields ← document.fields? dialect fieldNames
  let rtpCapacity ← fields.orElse "rtp_queue_capacity" word64OfDocument?
    default.rtpCapacity
  let eventCapacity ← fields.orElse "event_queue_capacity" word64OfDocument?
    default.eventCapacity
  let dropPolicy ← fields.orElse "drop_policy"
    (DropPolicy.ofDocument? dialect) default.dropPolicy
  let maxConsecutiveDrops ← fields.orElse "max_consecutive_drops"
    word32OfDocument? default.maxConsecutiveDrops
  return { rtpCapacity, eventCapacity, dropPolicy, maxConsecutiveDrops }

def toDocument (sinks : SinkSettings) : Document :=
  ofFields [("rtp_queue_capacity", .whole sinks.rtpCapacity.toNat),
    ("event_queue_capacity", .whole sinks.eventCapacity.toNat),
    ("drop_policy", sinks.dropPolicy.toDocument),
    ("max_consecutive_drops", .whole sinks.maxConsecutiveDrops.toNat)]

instance : AsDocument SinkSettings := ⟨ofDocument?, toDocument⟩

end SinkSettings

namespace Blueprint

def fieldNames : List String := ["bus", "rtp", "session", "sinks"]

def ofDocument? (dialect : Dialect) (document : Document) :
    Option Blueprint := do
  let fields ← document.fields? dialect fieldNames
  let bus ← fields.orElse "bus" (BusSettings.ofDocument? dialect) {}
  let rtp ← fields.orElse "rtp" (MediaSettings.ofDocument? dialect) {}
  let session ←
    fields.orElse "session" (SessionSettings.ofDocument? dialect) {}
  let sinks ← fields.orElse "sinks" (SinkSettings.ofDocument? dialect) {}
  return { bus, rtp, session, sinks }

def toDocument (blueprint : Blueprint) : Document :=
  ofFields [("bus", blueprint.bus.toDocument),
    ("rtp", blueprint.rtp.toDocument),
    ("session", blueprint.session.toDocument),
    ("sinks", blueprint.sinks.toDocument)]

instance : AsDocument Blueprint := ⟨ofDocument?, toDocument⟩

end Blueprint

end LanRelay
