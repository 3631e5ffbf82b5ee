/-
The rules that a configuration must keep, and the first one that it breaks.
-/
import LanRelay.Config.Blueprint
import LanRelay.Fault
import LanRelay.Text.Blank

namespace LanRelay

/-- A rule of the configuration that is broken. -/
inductive RuleBreach where
  | groupIsNoGroup (group : Endpoint4)
  | zeroInterval
  | ttlTooShort (ttl interval : UInt64)
  | blankService
  /-- A queue or buffer without room. -/
  | zeroCapacity (field : String)
  | blankCodec
  | frameBytesOutOfRange (bytes : UInt64)
deriving DecidableEq, Repr

/-- The smallest frame bound of a data channel. -/
def minFrameBytes : UInt64 := 64

/-- The greatest frame bound of a data channel: the payload of the longest
datagram. -/
def maxFrameBytes : UInt64 := 65507

namespace RuleBreach

def field : RuleBreach → String
  | groupIsNoGroup _ => "bus.multicast_group"
  | zeroInterval => "bus.announce_interval_ms"
  | ttlTooShort .. => "bus.peer_ttl_ms"
  | blankService => "bus.service"
  | zeroCapacity field => field
  | blankCodec => "session.codec"
  | frameBytesOutOfRange _ => "session.data_channel_frame_bytes"

def detail : RuleBreach → String
  | groupIsNoGroup group =>
      s!"{group.render} is not an IPv4 multicast address"
  | zeroInterval => "announce_interval_ms must be > 0"
  | ttlTooShort ttl interval =>
      s!"peer_ttl_ms ({ttl.toNat}) must be greater than " ++
        s!"announce_interval_ms ({interval.toNat})"
  | blankService => "service name cannot be empty"
  | zeroCapacity field => s!"{field} must be > 0"
  | blankCodec => "codec cannot be empty"
  | frameBytesOutOfRange bytes =>
      s!"data_channel_frame_bytes must be within {minFrameBytes.toNat}" ++
        s!"..={maxFrameBytes.toNat}, got {bytes.toNat}"

def fault (breach : RuleBreach) : Fault :=
  .configRule breach.field breach.detail

end RuleBreach

namespace Blueprint

/-- The queues and buffers that must have room, by the names of their
settings. -/
def capacities (blueprint : Blueprint) : List (String × UInt64) :=
  [("bus.delivery_queue_capacity", blueprint.bus.deliveryCapacity),
    ("rtp.queue_capacity", blueprint.rtp.queueCapacity),
    ("rtp.read_buffer_bytes", blueprint.rtp.readBufferBytes),
    ("sinks.rtp_queue_capacity", blueprint.sinks.rtpCapacity),
    ("sinks.event_queue_capacity", blueprint.sinks.eventCapacity)]

/-- The first rule that a configuration breaks. -/
def breach? (blueprint : Blueprint) : Option RuleBreach :=
  let bus := blueprint.bus
  let session := blueprint.session
  if !bus.group.ip.isMulticast then some (.groupIsNoGroup bus.group)
  else if bus.announceIntervalMs = 0 then some .zeroInterval
  else if bus.peerTtlMs ≤ bus.announceIntervalMs then
    some (.ttlTooShort bus.peerTtlMs bus.announceIntervalMs)
  else if Text.isBlankText bus.service then some .blankService
  else
    match blueprint.capacities.find? (·.2 = 0) with
    | some (field, _) => some (.zeroCapacity field)
    | none =>
        if Text.isBlankText session.codec then some .blankCodec
        else if session.frameBytes < minFrameBytes ∨
            maxFrameBytes < session.frameBytes then
          some (.frameBytesOutOfRange session.frameBytes)
        else none

def validate (blueprint : Blueprint) : Except Fault Unit :=
  match blueprint.breach? with
  | none => .ok ()
  | some breach => .error breach.fault

end Blueprint

end LanRelay
