/-
Shutting the proxy down.

A shutdown waits for the loops, then for the sessions, and then closes what is
still registered, one outlet after the other. It waits for the worker of each
outlet that it closes; the outlets that sessions have removed are not waited
for.
-/
import LanRelay.Session.Proxy.Basic

namespace LanRelay

namespace Proxy

/-- Tell all to stop. -/
def stop (proxy : Proxy) : Proxy := { proxy with stopped := true }

/-- Begin a shutdown. -/
def beginShutdown (proxy : Proxy) : Proxy :=
  { proxy with shutdown := some {} }

/-- The totals of the loops that were started and not yet reported. -/
def unreported (proxy : Proxy) : List Stats.DispatchTotals :=
  if proxy.isStarted && !proxy.reported then
    [proxy.packets.totals, proxy.events.totals]
  else []

/-- Attend to an outlet that is to be closed: close it, or pass on to the
pending ones once its worker is done. -/
def attend? {σ α : Type} (fanout : Fanout σ α) (number : Nat)
    (pending : List Nat) : Option (Fanout σ α × List Nat) :=
  match fanout.registry.outlets[number]? with
  | none => some (fanout, pending)
  | some outlet =>
      if !outlet.isClosed then
        some ({ fanout with
          registry := fanout.registry.adjust number Outlet.close },
          number :: pending)
      else if outlet.hasEnded then some (fanout, pending)
      else none

/-- Let a shutdown take a step. -/
def shutdownStep? (proxy : Proxy) : Option Proxy := do
  let shutdown ← proxy.shutdown
  let goOn (proxy : Proxy) (phase : ShutdownPhase) : Proxy :=
    { proxy with shutdown := some { shutdown with phase } }
  match shutdown.phase with
  | .loops =>
      if proxy.packets.isAtRest && proxy.events.isAtRest then
        some { proxy with
          reported := proxy.isStarted
          shutdown := some {
            phase := .sessions, totals := proxy.unreported } }
      else none
  | .sessions =>
      if proxy.sessions.all (fun session =>
          !session.isListed || session.state == .closed) then
        let pending := proxy.packets.registry.table.values
        let packets := { proxy.packets with
          registry := proxy.packets.registry.clear }
        goOn { proxy.prune with packets } (.packetOutlets pending)
      else none
  | .packetOutlets [] =>
      let pending := proxy.events.registry.table.values
      let events := { proxy.events with
        registry := proxy.events.registry.clear }
      goOn { proxy with events } (.eventOutlets pending)
  | .packetOutlets (number :: pending) =>
      let (packets, pending) ← attend? proxy.packets number pending
      goOn { proxy with packets } (.packetOutlets pending)
  | .eventOutlets [] => goOn proxy .complete
  | .eventOutlets (number :: pending) =>
      let (events, pending) ← attend? proxy.events number pending
      goOn { proxy with events } (.eventOutlets pending)
  | .complete => none

end Proxy

end LanRelay
