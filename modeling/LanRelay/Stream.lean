/-
The two streams that are fanned out: RTP packets and bus events.
-/
namespace LanRelay

inductive Stream where
  | rtp
  | event
deriving DecidableEq, Repr

def Stream.name : Stream → String
  | rtp => "rtp"
  | event => "event"

end LanRelay
