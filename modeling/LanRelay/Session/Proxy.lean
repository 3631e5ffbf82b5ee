/-
The steps of the proxy.

Everything that goes on is made of steps: those of the two loops, of the
workers of the outlets, of the sessions and their readers, and of a shutdown.
A step either changes the proxy or is not possible now. The steps may be taken
in any order; nothing here fixes one.
-/
import LanRelay.Session.Proxy.Shutdown
import LanRelay.Session.Proxy.Streams
import LanRelay.Session.Proxy.Supervision

namespace LanRelay

namespace Proxy

/-- Who can take a step. -/
inductive Actor where
  /-- A loop that heeds the call to stop. -/
  | stoppedLoop (stream : Stream)
  | loop (stream : Stream)
  | session (number : Nat) (trigger : Trigger)
  | reader (session : Nat)
  | worker (stream : Stream) (outlet : Nat)
  | shutdown
deriving DecidableEq, Repr

/-- The step of an actor, if it can take one. -/
def step? (proxy : Proxy) : Actor → Option Proxy
  | .stoppedLoop stream => proxy.heedStop? stream
  | .loop stream => proxy.dispatch? stream
  | .session number trigger => proxy.supervise? number trigger
  | .reader number => proxy.read? number
  | .worker stream outlet => proxy.work? outlet stream
  | .shutdown => proxy.shutdownStep?

/-- All actors there are. -/
def actors (proxy : Proxy) : List Actor :=
  let sessions := List.range proxy.sessions.length
  [.stoppedLoop .rtp, .stoppedLoop .event, .loop .rtp, .loop .event] ++
    sessions.flatMap (fun number =>
      [.session number .stop, .session number .request,
        .session number .report, .reader number]) ++
    (List.range proxy.packets.registry.outlets.length).map (.worker .rtp) ++
    (List.range proxy.events.registry.outlets.length).map (.worker .event) ++
    [.shutdown]

/-- The step of the first actor that can take one. -/
def advance? (proxy : Proxy) : Option Proxy :=
  proxy.actors.findSome? proxy.step?

end Proxy

end LanRelay
