/-
Gauges: the latest values of what is measured, by name.
-/
import LanRelay.Stats.Throughput

namespace LanRelay.Stats

/-- Something measured from time to time. -/
inductive Measurement where
  | sessions (active : UInt64)
  | busPeers (peers : UInt64)
  | ingest (received malformed dropped : UInt64)
  | sinks (stream : Stream) (number : UInt64) (totals : StreamTotals)

/-- The gauges that a measurement sets, and their values. -/
def Measurement.gauges : Measurement → List (String × Float)
  | sessions active => [("webrtc_proxy_sessions", active.toFloat)]
  | busPeers peers => [("webrtc_proxy_bus_peers", peers.toFloat)]
  | ingest received malformed dropped =>
      [("webrtc_proxy_rtp_received", received.toFloat),
        ("webrtc_proxy_rtp_malformed", malformed.toFloat),
        ("webrtc_proxy_rtp_ingest_dropped", dropped.toFloat)]
  | sinks stream number totals =>
      let label := "\x7bkind=" ++ stream.name ++ "\x7d"
      [("webrtc_proxy_sinks" ++ label, number.toFloat),
        ("webrtc_proxy_sink_written" ++ label, totals.written.toFloat),
        ("webrtc_proxy_sink_dropped" ++ label, totals.dropped.toFloat),
        ("webrtc_proxy_sink_failed" ++ label, totals.failed.toFloat),
        ("webrtc_proxy_sink_queue_len" ++ label, totals.queued.toFloat)]

end LanRelay.Stats
