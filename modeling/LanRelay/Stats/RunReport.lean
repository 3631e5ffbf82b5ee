/-
The report at the end of a run.
-/
import LanRelay.Stats.Throughput

namespace LanRelay.Stats

/-- What became of the items of one stream. -/
structure DispatchTotals where
  items : Nat := 0
  delivered : Nat := 0
  dropped : Nat := 0
  evicted : Nat := 0
deriving DecidableEq, Repr

structure RunReport where
  duration : Span
  received : UInt64
  malformed : UInt64
  dropped : UInt64
  /-- First the media stream, then the events. -/
  dispatch : List DispatchTotals
  busPeers : Nat
  eventNames : Nat
  throughput : Throughput

namespace RunReport

/-- The packets received per second; none in no time. -/
def packetRate (report : RunReport) : Float :=
  let seconds := secondsOf report.duration
  if 0 < seconds then report.received.toFloat / seconds else 0

def renderDispatch (stream : Stream) (totals : DispatchTotals) : String :=
  s!"\nDispatch ({stream.name})\n" ++
    s!"  Items: {totals.items}\n" ++
    s!"  Delivered: {totals.delivered}\n" ++
    s!"  Dropped: {totals.dropped}\n" ++
    s!"  Sinks evicted: {totals.evicted}\n"

def render (report : RunReport) : String :=
  let two := Text.fixedPoint 2
  "\n=== Proxy Statistics ===\n\n" ++
    "Overview\n" ++
    "  Duration: " ++ two (secondsOf report.duration) ++ "s\n" ++
    s!"  Bus peers at exit: {report.busPeers}\n" ++
    s!"  Event names seen: {report.eventNames}\n" ++
    "\nRTP ingest\n" ++
    s!"  Received: {report.received.toNat}\n" ++
    s!"  Malformed: {report.malformed.toNat}\n" ++
    s!"  Dropped: {report.dropped.toNat}\n" ++
    "  Rate: " ++ two report.packetRate ++ " pkt/s\n" ++
    String.join
      ((List.zip [Stream.rtp, Stream.event] report.dispatch).map
        fun (stream, totals) => renderDispatch stream totals) ++
    "\n" ++ report.throughput.render ++ "\n"

end RunReport

end LanRelay.Stats
