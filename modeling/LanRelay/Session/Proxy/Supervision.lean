/-
The life of a session.

It is set up for an offer, waits for its data channel, and then registers an
outlet in each of the two registries under its own identifier. It closes for
the first reason it hears of, and removes what is then registered under its
identifier.
-/
import LanRelay.Session.Inbound
import LanRelay.Session.Proxy.Basic

namespace LanRelay

namespace Proxy

/-- Bring about a link, if somebody takes the browser's side of it. -/
def negotiate (proxy : Proxy) (terms : Terms) : Except SessionFault Link :=
  if proxy.takesPeers then .ok { terms }
  else .error (.negotiation "loopback peer receiver dropped")

/-- Set up a session for an offer, under a fresh identifier; give its number
and the answer. An offer without the codec is rejected before anything is set
up. -/
def initiate (proxy : Proxy) (offer : Description) (id : SessionId) :
    Proxy × Except SessionFault (Nat × Description) :=
  match offer.resolvePayloadType proxy.settings.codec with
  | .error fault => (proxy.count .offersRejected, .error fault)
  | .ok payloadType =>
      let terms : Terms := {
        offer, payloadType
        codec := proxy.settings.codec
        ssrc := proxy.settings.ssrc }
      match proxy.negotiate terms with
      | .error fault => (proxy, .error fault)
      | .ok link =>
          let scene := proxy.scene
          ({ proxy with
              scene := { scene with
                links := scene.links ++ [link]
                requests := scene.requests ++ [[]] }
              sessions := proxy.sessions ++ [{ id, payloadType }] },
            .ok (proxy.sessions.length, terms.answer))

/-- The outlet for the media track of a session. -/
def trackOutlet (proxy : Proxy) (number : Nat) (session : Session) :
    Outlet PacketSink Rtp.Packet :=
  let sinks := proxy.settings.sinks
  .create (session.id ++ "/rtp") sinks.rtpCapacity.toNat sinks.dropPolicy
    (.track number session.payloadType)

/-- The outlet for a data channel of a session. -/
def channelOutlet (proxy : Proxy) (number : Nat) (session : Session)
    (channel : Nat) : Outlet EventSink Event :=
  let sinks := proxy.settings.sinks
  .create (session.id ++ "/events") sinks.eventCapacity.toNat
    sinks.dropPolicy (.channel number channel proxy.settings.frameBytes)

/-- Register the outlet of a track; the track is then no longer the
session's. -/
def registerTrack (proxy : Proxy) (number : Nat) (session : Session) :
    Proxy × Except RegistryFault Nat :=
  let (registry, result) :=
    proxy.packets.registry.register session.id
      (proxy.trackOutlet number session)
  ({ proxy with packets := { proxy.packets with registry } }.adjustSession
      number ({ · with hasTrack := false }),
    result)

/-- Register the outlet of a data channel. -/
def registerChannel (proxy : Proxy) (number : Nat) (session : Session)
    (channel : Nat) : Proxy × Except RegistryFault Nat :=
  let (registry, result) :=
    proxy.events.registry.register session.id
      (proxy.channelOutlet number session channel)
  ({ proxy with events := { proxy.events with registry } }, result)

/-- A data channel is open. The first one establishes the session; further ones
are let go. -/
def openChannel (proxy : Proxy) (number : Nat) (session : Session)
    (channel : Nat) : Proxy :=
  if session.state ≠ .negotiating ∨ !session.hasTrack then
    proxy.adjustLink number (·.dropChannel channel)
  else
    match proxy.registerTrack number session with
    | (proxy, .error _) =>
        (proxy.request number .registrationFailed).adjustLink number
          (·.dropChannel channel)
    | (proxy, .ok _) =>
        match proxy.registerChannel number session channel with
        | (proxy, .error _) =>
            (proxy.request number .registrationFailed).adjustLink number
              (·.dropReader channel)
        | (proxy, .ok _) =>
            { (proxy.adjustSession number
                ({ · with reader := some channel, state := .established })).count
                .sessionsOpened with
              active := proxy.active + 1 }

/-- Close a session: remove what is registered under its identifier, and let go
of the reader, of the transport, and of the track if it still has it. -/
def closeSession (proxy : Proxy) (number : Nat) (session : Session)
    (reason : CloseReason) : Proxy :=
  let (packetRegistry, rtpRemoved) :=
    proxy.packets.registry.unregister session.id
  let (eventRegistry, eventsRemoved) :=
    proxy.events.registry.unregister session.id
  let letGo (link : Link) : Link :=
    let link := (session.reader.map link.dropReader).getD link
    let link := if session.hasTrack then link.dropTrack else link
    link.dropReports
  { ((proxy.adjustLink number letGo).adjustSession number
      ({ · with
        state := .closed
        hasTrack := false
        reader := none
        ending := some {
          reason, rtpRemoved, eventsRemoved, previous := session.state } })).count
      .sessionsClosed with
    packets := { proxy.packets with registry := packetRegistry }
    events := { proxy.events with registry := eventRegistry }
    active :=
      if session.state = .established then proxy.active - 1
      else proxy.active }

/-- What a session can act on. -/
inductive Trigger where
  /-- All are told to stop. -/
  | stop
  /-- Somebody has asked the session to close. -/
  | request
  /-- The transport has something to report, or is gone. -/
  | report
deriving DecidableEq, Repr

/-- Let a session act on the transport. -/
def hearReport? (proxy : Proxy) (number : Nat) (session : Session) :
    Option Proxy := do
  let link ← proxy.scene.links[number]?
  match link.nextReport with
  | .pending => none
  | .closed => proxy.closeSession number session .transportDropped
  | .ready (report, link) =>
      let proxy := proxy.adjustLink number fun _ => link
      match report with
      | .channelOpened channel => proxy.openChannel number session channel
      | .connection state =>
          if state.isTerminal then
            proxy.closeSession number session (.connection state)
          else proxy

/-- Let a session act on one of its triggers. A closed session acts on none. -/
def supervise? (proxy : Proxy) (number : Nat) (trigger : Trigger) :
    Option Proxy := do
  let session ← proxy.sessions[number]?
  if session.state = .closed then none
  else
    match trigger with
    | .stop =>
        if proxy.stopped then proxy.closeSession number session .shutdown
        else none
    | .request =>
        match proxy.scene.requests[number]? with
        | some (reason :: _) => proxy.closeSession number session reason
        | _ => none
    | .report => proxy.hearReport? number session

/-- What a frame from the browser comes to. -/
def receive (proxy : Proxy) : Inbound → Proxy
  | .event event => { proxy with published := proxy.published ++ [event] }
  | .skipped defect => proxy.count (.malformedFrames defect)

/-- Let the reader of a session act on what it gets. When the channel has ended
or failed, it asks the session to close and reads no more. -/
def heed (proxy : Proxy) (number channel : Nat) : Reading → Proxy
  | .frame bytes => proxy.receive (.ofFrame proxy.settings.frameBytes bytes)
  | .ended | .failed _ =>
      ((proxy.adjustSession number ({ · with reader := none })).adjustLink number
        (·.dropReader channel)).request number .dataChannelClosed

/-- Let the reader of a session read on. -/
def read? (proxy : Proxy) (number : Nat) : Option Proxy := do
  let session ← proxy.sessions[number]?
  let channel ← session.reader
  let link ← proxy.scene.links[number]?
  match link.readFrame channel with
  | .pending => none
  | .closed => proxy.heed number channel .ended
  | .ready (frame, link) =>
      (proxy.adjustLink number fun _ => link).heed number channel (.frame frame)

end Proxy

end LanRelay
