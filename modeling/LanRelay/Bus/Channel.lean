/-
The two channels of the bus.
-/
namespace LanRelay

/-- Presence is announced to the group; events, and announcements to a single
peer, come in at the event socket. -/
inductive BusChannel where
  | presence
  | events
deriving DecidableEq, Repr

def BusChannel.name : BusChannel → String
  | presence => "presence"
  | events => "events"

end LanRelay
