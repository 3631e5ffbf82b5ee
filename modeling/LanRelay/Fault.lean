/-
What can go wrong, and the words for it.

Every failure is a value that names its cause; `message` is the only place
where it becomes text.
-/
import LanRelay.Net.Address.Printer
import LanRelay.Stream

namespace LanRelay

/-- The failures of reading, writing and sending. -/
inductive Fault where
  /-- A configuration file is not well formed. -/
  | configSyntax (detail : String)
  /-- A configuration is well formed and breaks a rule. -/
  | configRule (field detail : String)
  /-- A message on the wire cannot be read. -/
  | decode (what detail : String)
  /-- A message cannot be written. -/
  | encode (what detail : String)
  /-- A message is longer than its bound. -/
  | oversized (what : String) (size max : Nat)
  /-- A timestamp is outside the years 1 to 9999, or its fraction of a second
  is not one. -/
  | invalidTimestamp (seconds : Int64) (nanos : Int32)
  /-- A datagram is not an RTP packet. -/
  | rtp (detail : String)
  /-- A sink refused an item. -/
  | sinkWrite (sink detail : String)
  /-- A sink's other end is gone. -/
  | sinkClosed (sink : String)
  /-- The system refused an operation. -/
  | io (detail : String)
  | other (detail : String)
deriving DecidableEq, Repr

namespace Fault

def message : Fault → String
  | configSyntax detail => s!"config parse error: {detail}"
  | configRule field detail =>
      s!"config validation error at '{field}': {detail}"
  | decode what detail => s!"decode error for {what}: {detail}"
  | encode what detail => s!"encode error for {what}: {detail}"
  | oversized what size max =>
      s!"{what} of {size} bytes exceeds the {max} byte datagram bound"
  | invalidTimestamp seconds nanos =>
      s!"invalid timestamp: seconds={seconds.toInt}, nanos={nanos.toInt}"
  | rtp detail => s!"rtp parse error: {detail}"
  | sinkWrite sink detail => s!"sink '{sink}' write error: {detail}"
  | sinkClosed sink => s!"sink '{sink}' closed"
  | io detail => s!"io error: {detail}"
  | other detail => detail

/-- The kind of a failure, in one word. -/
def kind : Fault → String
  | configSyntax .. => "ConfigParse"
  | configRule .. => "ConfigValidation"
  | decode .. => "Decode"
  | encode .. => "Encode"
  | oversized .. => "Oversized"
  | invalidTimestamp .. => "InvalidTimestamp"
  | rtp .. => "RtpParse"
  | sinkWrite .. => "SinkWrite"
  | sinkClosed .. => "SinkClosed"
  | io .. => "Io"
  | other .. => "Other"

/-- One unit of input was malformed, and the next one may be fine. -/
def isDecode : Fault → Bool
  | decode .. | rtp .. | invalidTimestamp .. => true
  | _ => false

end Fault

/-- The failures of joining the bus. -/
inductive BusFault where
  | bind (what : String) (address : Endpoint) (detail : String)
  | joinGroup (group interface : Ipv4) (detail : String)
  | fault (fault : Fault)
  | io (detail : String)

def BusFault.message : BusFault → String
  | bind what address detail =>
      s!"failed to bind {what} socket on {address.render}: {detail}"
  | joinGroup group interface detail =>
      "failed to join multicast group " ++ group.render ++ " on " ++
        interface.render ++ ": " ++ detail
  | fault f => f.message
  | io detail => s!"io error: {detail}"

/-- The failures of taking in the media stream. -/
inductive IngestFault where
  | bind (address : Endpoint) (detail : String)
  | joinGroup (group : Endpoint) (detail : String)
  | channelClosed (stream : String)
  | io (detail : String)

def IngestFault.message : IngestFault → String
  | bind address detail =>
      s!"failed to bind rtp socket on {address.render}: {detail}"
  | joinGroup group detail =>
      s!"failed to join rtp multicast group {group.render}: {detail}"
  | channelClosed stream => s!"{stream} channel closed"
  | io detail => s!"io error: {detail}"

/-- The failures of putting a sink into a registry. -/
inductive RegistryFault where
  | alreadyRegistered (stream : Stream) (session : String)
  | sink (fault : Fault)
deriving DecidableEq, Repr

def RegistryFault.message : RegistryFault → String
  | alreadyRegistered stream session =>
      s!"{stream.name} sink already registered for session '{session}'"
  | sink fault => s!"sink error: {fault.message}"

end LanRelay
