/-
What goes through the proxy: the sources of both streams, their loops, the
workers of the outlets, and the sinks that log.
-/
import LanRelay.Session.Proxy.Basic

namespace LanRelay

namespace Proxy

/-- Hand a packet to the source of packets. -/
def sendPacket (proxy : Proxy) (packet : Rtp.Packet) : Proxy × Queue.Sent :=
  let (source, sent) := proxy.packets.source.trySend packet
  ({ proxy with packets := { proxy.packets with source } }, sent)

/-- Hand an event to the source of events. -/
def sendEvent (proxy : Proxy) (event : Event) : Proxy × Queue.Sent :=
  let (source, sent) := proxy.events.source.trySend event
  ({ proxy with events := { proxy.events with source } }, sent)

/-- Close both sources. -/
def closeSources (proxy : Proxy) : Proxy :=
  { proxy with
    packets := { proxy.packets with source := proxy.packets.source.close }
    events := { proxy.events with source := proxy.events.source.close } }

/-! Loops and workers. -/

/-- A source that its loop no longer reads is closed. -/
def closeUnread {σ α : Type} (fanout : Fanout σ α) : Fanout σ α :=
  match fanout.loop with
  | some .ended => { fanout with source := fanout.source.close }
  | _ => fanout

/-- Let the loop of a stream take a step. -/
def dispatch? (proxy : Proxy) : Stream → Option Proxy
  | .rtp => do
      let packets ← proxy.packets.step?
      return { proxy with packets := closeUnread packets }
  | .event => do
      let events ← proxy.events.step?
      return { proxy with events := closeUnread events }

/-- Let the loop of a stream heed the call to stop. -/
def heedStop? (proxy : Proxy) (stream : Stream) : Option Proxy :=
  if proxy.stopped then
    match stream with
    | .rtp => do
        let packets ← proxy.packets.stop?
        return { proxy with packets := closeUnread packets }
    | .event => do
        let events ← proxy.events.stop?
        return { proxy with events := closeUnread events }
  else none

/-- Let the worker of an outlet take a step. -/
def work? (proxy : Proxy) (number : Nat) : Stream → Option Proxy
  | .rtp => do
      let (packets, scene) ← proxy.packets.work? number proxy.scene
      return { proxy with packets, scene }
  | .event => do
      let (events, scene) ← proxy.events.work? number proxy.scene
      return { proxy with events, scene }

/-! Logging. -/

def logId : SessionId := "log-sink"

/-- Log a stream under an identifier. -/
def logStream (proxy : Proxy) (id : SessionId) (name : String)
    (capacity : Nat) : Stream → Proxy × Except RegistryFault Nat
  | .rtp =>
      let name := name ++ "/rtp"
      let (registry, result) := proxy.packets.registry.register id
        (.create name capacity .dropNewest (.log name 0))
      ({ proxy with packets := { proxy.packets with registry } }, result)
  | .event =>
      let name := name ++ "/events"
      let (registry, result) := proxy.events.registry.register id
        (.create name capacity .dropNewest (.log name 0))
      ({ proxy with events := { proxy.events with registry } }, result)

/-- Remove the outlet of a session from a stream. -/
def unregister (proxy : Proxy) (id : SessionId) : Stream → Proxy × Bool
  | .rtp =>
      let (registry, removed) := proxy.packets.registry.unregister id
      ({ proxy with packets := { proxy.packets with registry } }, removed)
  | .event =>
      let (registry, removed) := proxy.events.registry.unregister id
      ({ proxy with events := { proxy.events with registry } }, removed)

/-- Something is registered for a session in a stream. -/
def isRegistered (proxy : Proxy) (id : SessionId) : Stream → Bool
  | .rtp => proxy.packets.registry.contains id
  | .event => proxy.events.registry.contains id

/-- Log both streams. If the events cannot be logged, the packets are not
either. -/
def attachLog (proxy : Proxy) : Proxy × Except SessionFault Unit :=
  let sinks := proxy.settings.sinks
  match proxy.logStream logId logId sinks.rtpCapacity.toNat .rtp with
  | (proxy, .error fault) => (proxy, .error (.registry fault))
  | (proxy, .ok _) =>
      match proxy.logStream logId logId sinks.eventCapacity.toNat .event with
      | (proxy, .error fault) =>
          ((proxy.unregister logId .rtp).1, .error (.registry fault))
      | (proxy, .ok _) => (proxy, .ok ())

end Proxy

end LanRelay
