/-
Advice on configurations that keep the rules and may still surprise.
-/
import LanRelay.Config.Blueprint

namespace LanRelay

inductive Advice where
  /-- The system chooses the interface that joins the group. -/
  | anyInterface
  /-- Events go wherever an announcement says. -/
  | trustsAnnouncedHosts
  /-- One lost announcement is enough to forget a peer. -/
  | shortTtl
  /-- Slow sessions are never closed. -/
  | keepsSlowSessions
deriving DecidableEq, Repr

def Advice.message : Advice → String
  | anyInterface =>
      "bus.interface is 0.0.0.0 - the OS picks the interface that joins " ++
        "the group"
  | trustsAnnouncedHosts =>
      "bus.delivery_target = self_reported trusts the host peers announce"
  | shortTtl =>
      "bus.peer_ttl_ms is less than two announce intervals - " ++
        "one lost announcement evicts a peer"
  | keepsSlowSessions =>
      "sinks.max_consecutive_drops = 0 - slow sessions are never disconnected"

/-- The product of two 64-bit words, if it is one too. -/
def wordProduct? (x y : UInt64) : Option UInt64 :=
  if x.toNat * y.toNat < UInt64.size then some (x * y) else none

namespace Blueprint

/-- Each piece of advice, and whether it applies. There is no telling when two
announce intervals are out of range. -/
def adviceTable? (blueprint : Blueprint) : Option (List (Advice × Bool)) := do
  let bus := blueprint.bus
  let twoIntervals ← wordProduct? bus.announceIntervalMs 2
  return [(.anyInterface, bus.interface.isUnspecified),
    (.trustsAnnouncedHosts, bus.deliveryTarget == .selfReported),
    (.shortTtl, bus.peerTtlMs < twoIntervals),
    (.keepsSlowSessions, blueprint.sinks.maxConsecutiveDrops == 0)]

/-- The advice that applies, if that can be told. -/
def advice? (blueprint : Blueprint) : Option (List Advice) :=
  blueprint.adviceTable?.map fun table => (table.filter (·.2)).map (·.1)

end Blueprint

end LanRelay
