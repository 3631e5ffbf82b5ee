/-
The sinks of sessions, and the sinks that log.

A track sink writes packets to the media track of its session, under the
payload type that the session negotiated. A channel sink writes events to the
data channel, encoded, if they fit into a frame. A sink that is closed asks its
session to close. A log sink writes down what it gets.
-/
import LanRelay.Document
import LanRelay.Flow.Outlet
import LanRelay.Session.Link

namespace LanRelay

/-- What a log sink writes down. -/
inductive LogRecord where
  | packet (sink : String) (packet : Rtp.Packet)
  | event (sink : String) (event : Event)
  /-- The sink is closed after so many items. -/
  | closed (sink : String) (stream : Stream) (items : Nat)

namespace LogRecord

open Document

def sink : LogRecord → String
  | packet sink _ | event sink _ | closed sink _ _ => sink

/-- A log record with its message and fields. -/
def toDocument : LogRecord → Document
  | packet sink p =>
      ofFields [("message", ofText "RtpPacket received"),
        ("sink", ofText sink),
        ("seq", .whole p.sequence.toNat),
        ("ts", .whole p.timestamp.toNat),
        ("pt", .whole p.payloadType.toNat),
        ("marker", .bool p.marker),
        ("bytes", .whole p.payload.length)]
  | event sink e =>
      ofFields [("message", ofText "Event received"),
        ("sink", ofText sink),
        ("stamp", ofText e.stamp.render),
        ("type_url", ofText e.data.typeUrl),
        ("bytes", .whole e.data.value.length),
        ("text", ofText (e.data.text?.getD ""))]
  | closed sink stream items =>
      let counted :=
        match stream with
        | .rtp => "packets"
        | .event => "events"
      ofFields [("message", ofText "LogSink closed"),
        ("sink", ofText sink),
        (counted, .whole items)]

end LogRecord

/-- What sinks and sessions share. Links and requests go by the number of the
session. -/
structure Scene where
  links : List Link := []
  /-- The requests to close a session, the oldest at the head. -/
  requests : List (List CloseReason) := []
  log : List LogRecord := []

namespace Scene

def adjustLink (scene : Scene) (session : Nat) (f : Link → Link) : Scene :=
  { scene with links := scene.links.modify session f }

def setLink (scene : Scene) (session : Nat) (link : Link) : Scene :=
  { scene with links := scene.links.set session link }

/-- Ask a session to close. -/
def request (scene : Scene) (session : Nat) (reason : CloseReason) : Scene :=
  { scene with requests := scene.requests.modify session (· ++ [reason]) }

def record (scene : Scene) (entry : LogRecord) : Scene :=
  { scene with log := scene.log ++ [entry] }

/-- Come to a result on the link of a session. -/
def onLink (scene : Scene) (session : Nat) (side : LinkEnd)
    (act : Link → Polled Link) : Option (Except Fault Unit × Scene) :=
  match scene.links[session]? with
  | none => some (.error side.fault, scene)
  | some link =>
      match act link with
      | .ready link => some (.ok (), scene.setLink session link)
      | .pending => none
      | .closed => some (.error side.fault, scene)

end Scene

/-- Where packets go. -/
inductive PacketSink where
  | track (session : Nat) (payloadType : UInt8)
  | log (name : String) (items : Nat)
deriving DecidableEq, Repr

namespace PacketSink

def write (packet : Rtp.Packet) :
    PacketSink × Scene → Option (Except Fault Unit × PacketSink × Scene)
  | (track session payloadType, scene) => do
      let packet := { packet with payloadType }
      let (result, scene) ←
        scene.onLink session .track (·.writePacket packet)
      return (result, track session payloadType, scene)
  | (log name items, scene) =>
      some (.ok (), log name (items + 1), scene.record (.packet name packet))

/-- Closing a track lets go of it. -/
def close : PacketSink × Scene → PacketSink × Scene
  | (track session payloadType, scene) =>
      (track session payloadType,
        (scene.adjustLink session Link.dropTrack).request session
          (.sinkClosed .rtp))
  | (log name items, scene) =>
      (log name items, scene.record (.closed name .rtp items))

end PacketSink

instance : Sink PacketSink Scene Rtp.Packet where
  write := PacketSink.write
  flush state := (.ok (), state)
  close state := (.ok (), PacketSink.close state)

/-- Where events go. -/
inductive EventSink where
  | channel (session number : Nat) (frameBytes : Nat)
  | log (name : String) (items : Nat)
deriving DecidableEq, Repr

namespace EventSink

/-- The frame of an event, if it is short enough. -/
def frame (frameBytes : Nat) (event : Event) : Except Fault Bytes := do
  let bytes ← event.encode
  if frameBytes < bytes.length then
    throw (.oversized "data channel frame" bytes.length frameBytes)
  return bytes

def write (event : Event) :
    EventSink × Scene → Option (Except Fault Unit × EventSink × Scene)
  | (channel session number frameBytes, scene) =>
      let sink := channel session number frameBytes
      match frame frameBytes event with
      | .error fault => some (.error fault, sink, scene)
      | .ok bytes => do
          let (result, scene) ←
            scene.onLink session .writer (·.writeFrame number bytes)
          return (result, sink, scene)
  | (log name items, scene) =>
      some (.ok (), log name (items + 1), scene.record (.event name event))

/-- Closing a channel lets go of its writer. -/
def close : EventSink × Scene → EventSink × Scene
  | (channel session number frameBytes, scene) =>
      (channel session number frameBytes,
        (scene.adjustLink session (·.dropWriter number)).request session
          (.sinkClosed .event))
  | (log name items, scene) =>
      (log name items, scene.record (.closed name .event items))

end EventSink

instance : Sink EventSink Scene Event where
  write := EventSink.write
  flush state := (.ok (), state)
  close state := (.ok (), EventSink.close state)

end LanRelay
