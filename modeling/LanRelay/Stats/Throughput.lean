/-
How many items per second the sinks of each stream write.

Totals are sampled from time to time; the rate is the growth of the written
total over the time between two samples. A total that falls, because a sink
has gone, counts as no growth.
-/
import LanRelay.Stats.Running
import LanRelay.Stream
import LanRelay.Time.Timestamp

namespace LanRelay.Stats

/-- The totals over all sinks of a stream. -/
structure StreamTotals where
  written : UInt64 := 0
  dropped : UInt64 := 0
  failed : UInt64 := 0
  queued : UInt64 := 0
deriving DecidableEq, Repr

/-- A length of time in seconds. -/
def secondsOf (span : Span) : Float :=
  (UInt64.ofNat (span / nanosPerSecond)).toFloat +
    (UInt64.ofNat (span % nanosPerSecond)).toFloat /
      (UInt64.ofNat nanosPerSecond).toFloat

/-- The latest totals of a stream, and its rates so far. -/
structure StreamRates where
  last : StreamTotals := {}
  rates : Running Float := .empty

/-- Sample the totals of a stream. No time between two samples gives no
rate. -/
def StreamRates.sample (state : StreamRates) (totals : StreamTotals)
    (elapsed : Span) : StreamRates :=
  let growth :=
    if totals.written < state.last.written then 0
    else totals.written - state.last.written
  let seconds := secondsOf elapsed
  { last := totals
    rates :=
      if 0 < seconds then state.rates.push (growth.toFloat / seconds)
      else state.rates }

/-- The rates of the streams that have been sampled. -/
structure Throughput where
  rtp : Option StreamRates := none
  event : Option StreamRates := none

namespace Throughput

def get? (throughput : Throughput) : Stream → Option StreamRates
  | .rtp => throughput.rtp
  | .event => throughput.event

def sample (throughput : Throughput) (stream : Stream)
    (totals : StreamTotals) (elapsed : Span) : Throughput :=
  let state :=
    ((throughput.get? stream).getD {}).sample totals elapsed
  match stream with
  | .rtp => { throughput with rtp := some state }
  | .event => { throughput with event := some state }

/-- The streams in the order of their names. -/
def streams : List Stream := [.event, .rtp]

/-- The two lines on a stream. -/
def renderStream (stream : Stream) (state : StreamRates) : String :=
  let last := state.last
  s!"{stream.name}: written={last.written.toNat} " ++
    s!"dropped={last.dropped.toNat} failed={last.failed.toNat}\n" ++
    "  rate (items/s): " ++ (Summary.ofRunning state.rates).render ++ "\n"

def render (throughput : Throughput) : String :=
  "=== Fan-out Summary ===\n" ++
    String.join (streams.map fun stream =>
      ((throughput.get? stream).map (renderStream stream)).getD "")

end Throughput

end LanRelay.Stats
