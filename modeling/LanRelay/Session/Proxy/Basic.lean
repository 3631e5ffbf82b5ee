/-
The proxy: two fan-outs, and the sessions that take part in them.

A session goes by its number, the place it has among all sessions that were
ever set up, as do its link and the requests to close it.
-/
import LanRelay.Flow.Fanout
import LanRelay.Session.Sinks

namespace LanRelay

structure ProxySettings where
  codec : String
  ssrc : UInt32
  frameBytes : Nat
  sinks : SinkSettings

def ProxySettings.ofBlueprint (blueprint : Blueprint) : ProxySettings where
  codec := blueprint.session.codec
  ssrc := blueprint.rtp.ssrc
  frameBytes := blueprint.session.frameBytes.toNat
  sinks := blueprint.sinks

/-- How a session came to its end. -/
structure Ending where
  reason : CloseReason
  previous : SessionState
  rtpRemoved : Bool
  eventsRemoved : Bool
deriving DecidableEq, Repr

structure Session where
  id : SessionId
  payloadType : UInt8
  state : SessionState := .negotiating
  /-- The media track has not been given to an outlet. -/
  hasTrack : Bool := true
  /-- The channel that is read. -/
  reader : Option Nat := none
  ending : Option Ending := none
  /-- The session is in the table of the proxy. -/
  isListed : Bool := true

/-- What a shutdown is waiting for. -/
inductive ShutdownPhase where
  | loops
  | sessions
  /-- The outlets with these numbers have yet to be closed, one by one. -/
  | packetOutlets (pending : List Nat)
  | eventOutlets (pending : List Nat)
  | complete
deriving DecidableEq, Repr

/-- A shutdown, and the totals of the loops that it has seen end. -/
structure Shutdown where
  phase : ShutdownPhase := .loops
  totals : List Stats.DispatchTotals := []

structure Proxy where
  settings : ProxySettings
  packets : Fanout PacketSink Rtp.Packet
  events : Fanout EventSink Event
  scene : Scene := {}
  sessions : List Session := []
  /-- Somebody takes the browser's sides of new links. -/
  takesPeers : Bool := true
  /-- All are told to stop. -/
  stopped : Bool := false
  shutdown : Option Shutdown := none
  /-- The totals of ended loops have been handed out. -/
  reported : Bool := false
  /-- The events that went out to the bus. -/
  published : List Event := []
  /-- The gauge of established sessions. -/
  active : Int := 0
  tally : Tally := .none

namespace Proxy

/-- A proxy with no sessions, in front of two empty sources. -/
def create (settings : ProxySettings) (rtpSource eventSource : Nat) :
    Proxy where
  settings := settings
  packets := {
    registry := { stream := .rtp }
    source := { capacity := rtpSource }
    limit := settings.sinks.maxConsecutiveDrops.toNat }
  events := {
    registry := { stream := .event }
    source := { capacity := eventSource }
    limit := settings.sinks.maxConsecutiveDrops.toNat }

def count (proxy : Proxy) (counter : Counter) : Proxy :=
  { proxy with tally := proxy.tally.count counter }

def adjustSession (proxy : Proxy) (number : Nat) (f : Session → Session) :
    Proxy :=
  { proxy with sessions := proxy.sessions.modify number f }

def adjustLink (proxy : Proxy) (number : Nat) (f : Link → Link) : Proxy :=
  { proxy with scene := proxy.scene.adjustLink number f }

/-- Ask a session to close. -/
def request (proxy : Proxy) (number : Nat) (reason : CloseReason) : Proxy :=
  { proxy with scene := proxy.scene.request number reason }

def isStarted (proxy : Proxy) : Bool := proxy.packets.loop.isSome

/-- Start both loops, and say whether they had not been started before. -/
def start (proxy : Proxy) : Proxy × Bool :=
  if proxy.isStarted then (proxy, false)
  else
    ({ proxy with
        packets := proxy.packets.start
        events := proxy.events.start },
      true)

/-- All counts. -/
def counts (proxy : Proxy) : List (String × Nat) :=
  proxy.tally.report ++ proxy.packets.tally.report ++
    proxy.events.tally.report

/-- Forget the sessions that have closed. -/
def prune (proxy : Proxy) : Proxy :=
  { proxy with
    sessions := proxy.sessions.map fun session =>
      { session with
        isListed := session.isListed && session.state ≠ .closed } }

/-- How many sessions there are. -/
def sessionCount (proxy : Proxy) : Nat :=
  (proxy.sessions.filter (·.isListed)).length

end Proxy

end LanRelay
