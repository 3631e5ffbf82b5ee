/-
Links: the connection of a session to a browser, as it is within one process.

A link has a media track, a pipe for what the transport reports, and data
channels with a pipe each way. The peer is the browser's side. It opens data
channels and reports connection states, and each channel that it opens has a
remote end of its own. The session's side of a channel is its writer and its
reader.
-/
import LanRelay.Bus.Datagram
import LanRelay.Flow.Pipe
import LanRelay.Rtp.Packet
import LanRelay.Session.Description
import LanRelay.Session.State

namespace LanRelay

/-- What a negotiation is about. -/
structure Terms where
  offer : Description
  codec : String
  /-- The payload type that the offer has for the codec. -/
  payloadType : UInt8
  ssrc : UInt32
deriving DecidableEq, Repr

/-- The answer to an offer: one video section with the one codec, and a data
channel. -/
def Terms.answer (terms : Terms) : Description where
  kind := .answer
  sdp :=
    "v=0\r\no=- 0 0 IN IP4 127.0.0.1\r\ns=-\r\nt=0 0\r\n" ++
      s!"m=video 9 UDP/TLS/RTP/SAVPF {terms.payloadType.toNat}\r\n" ++
      s!"a=rtpmap:{terms.payloadType.toNat} {terms.codec}/90000\r\n" ++
      s!"a=ssrc:{terms.ssrc.toNat}\r\n" ++
      "m=application 9 UDP/DTLS/SCTP webrtc-datachannel\r\n"

/-- How many packets, or frames each way, wait in a link. -/
def linkDepth : Nat := 256

/-- How many reports of the transport wait. -/
def reportDepth : Nat := 16

/-- What the transport reports. -/
inductive Report where
  /-- The peer has opened the data channel with this number. -/
  | channelOpened (number : Nat)
  | connection (state : ConnectionState)
deriving DecidableEq, Repr

structure DataChannel where
  label : String
  /-- Frames from the browser. -/
  inbound : Pipe Bytes := { capacity := linkDepth }
  /-- Frames to the browser. -/
  outbound : Pipe Bytes := { capacity := linkDepth }
deriving Repr

structure Link where
  terms : Terms
  media : Pipe Rtp.Packet := { capacity := linkDepth }
  reports : Pipe Report := { capacity := reportDepth }
  channels : List DataChannel := []
  hasPeer : Bool := true
deriving Repr

namespace Link

def adjustChannel (link : Link) (number : Nat)
    (f : DataChannel → DataChannel) : Link :=
  { link with channels := link.channels.modify number f }

/-! The session's side. -/

def dropReader (link : Link) (number : Nat) : Link :=
  link.adjustChannel number fun channel =>
    { channel with inbound := channel.inbound.dropReceiver }

def dropWriter (link : Link) (number : Nat) : Link :=
  link.adjustChannel number fun channel =>
    { channel with outbound := channel.outbound.dropSender }

/-- Let go of both halves of a channel. -/
def dropChannel (link : Link) (number : Nat) : Link :=
  (link.dropReader number).dropWriter number

def dropTrack (link : Link) : Link :=
  { link with media := link.media.dropSender }

/-- Take no more reports. The channels in reports that were not taken go away
with them. -/
def dropReports (link : Link) : Link :=
  let link₁ := link.reports.items.foldl
    (fun link report =>
      match report with
      | .channelOpened number => link.dropChannel number
      | .connection _ => link)
    link
  { link₁ with reports := link.reports.dropReceiver }

/-- The next report of the transport. -/
def nextReport (link : Link) : Polled (Report × Link) :=
  link.reports.receive.map fun (report, reports) =>
    (report, { link with reports })

/-- Write a packet to the track. -/
def writePacket (link : Link) (packet : Rtp.Packet) : Polled Link :=
  (link.media.send packet).map fun media => { link with media }

/-- Write a frame to a channel. -/
def writeFrame (link : Link) (number : Nat) (frame : Bytes) : Polled Link :=
  match link.channels[number]? with
  | none => .closed
  | some channel =>
      (channel.outbound.send frame).map fun outbound =>
        link.adjustChannel number ({ · with outbound })

/-- The next frame from the browser. -/
def readFrame (link : Link) (number : Nat) : Polled (Bytes × Link) :=
  match link.channels[number]? with
  | none => .closed
  | some channel =>
      channel.inbound.receive.map fun (frame, inbound) =>
        (frame, link.adjustChannel number ({ · with inbound }))

/-! The browser's side. -/

/-- Report something to the session. -/
def report (link : Link) (report : Report) : Polled Link :=
  (link.reports.send report).map fun reports => { link with reports }

/-- Open a data channel, and say its number. A channel that cannot be reported
is not opened. -/
def openChannel (link : Link) (label : String) : Polled (Nat × Link) :=
  let number := link.channels.length
  (link.report (.channelOpened number)).map fun link =>
    (number, { link with channels := link.channels ++ [{ label }] })

/-- The peer goes away; the ends of its channels stay. -/
def dropPeer (link : Link) : Link :=
  { link with
    hasPeer := false
    media := link.media.dropReceiver
    reports := link.reports.dropSender }

/-- The next packet on the track. -/
def receivePacket (link : Link) : Polled (Rtp.Packet × Link) :=
  link.media.receive.map fun (packet, media) => (packet, { link with media })

/-- The packets that are there. -/
def drainPackets (link : Link) : List Rtp.Packet × Link :=
  (link.media.items, { link with media := { link.media with items := [] } })

/-- Send a frame to the session. -/
def sendFrame (link : Link) (number : Nat) (frame : Bytes) : Polled Link :=
  match link.channels[number]? with
  | none => .closed
  | some channel =>
      (channel.inbound.send frame).map fun inbound =>
        link.adjustChannel number ({ · with inbound })

/-- The next frame from the session. -/
def receiveFrame (link : Link) (number : Nat) : Polled (Bytes × Link) :=
  match link.channels[number]? with
  | none => .closed
  | some channel =>
      channel.outbound.receive.map fun (frame, outbound) =>
        (frame, link.adjustChannel number ({ · with outbound }))

/-- The browser sends no more frames on a channel. -/
def closeRemote (link : Link) (number : Nat) : Link :=
  link.adjustChannel number fun channel =>
    { channel with inbound := channel.inbound.dropSender }

/-- The browser lets go of a channel. -/
def dropRemote (link : Link) (number : Nat) : Link :=
  (link.closeRemote number).adjustChannel number fun channel =>
    { channel with outbound := channel.outbound.dropReceiver }

end Link

/-- The ends of a link whose other side is gone, as failures. -/
inductive LinkEnd where
  /-- Of the session: its media track, and the writer of a channel. -/
  | track
  | writer
  /-- Of the browser: its transport, and the remote end of a channel. -/
  | transport
  | remote
deriving DecidableEq, Repr

def LinkEnd.fault : LinkEnd → Fault
  | track => .sinkClosed "loopback track"
  | writer => .sinkClosed "loopback data channel"
  | transport => .sinkClosed "loopback session"
  | remote => .sinkClosed "loopback remote"

end LanRelay
