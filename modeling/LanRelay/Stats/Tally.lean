/-
Counters: how often each of the things that are counted has happened.
-/
import LanRelay.Bus.Channel
import LanRelay.Keyed
import LanRelay.Stream

namespace LanRelay

/-- Why a frame from a data channel is skipped. -/
inductive FrameDefect where
  | oversized
  | decode
  | other
deriving DecidableEq, Repr

def FrameDefect.name : FrameDefect → String
  | oversized => "oversized"
  | decode => "decode"
  | other => "other"

/-- What is counted. -/
inductive Counter where
  | itemsDispatched (stream : Stream)
  | itemsDropped (stream : Stream)
  | offersRejected
  | sessionsOpened
  | sessionsClosed
  | malformedFrames (defect : FrameDefect)
  | packetsReceived
  | packetDecodeErrors
  | announcementsReceived
  | eventsReceived
  | eventsDropped
  | eventsSent
  | peersEvicted
  | busDecodeErrors (channel : BusChannel)
deriving DecidableEq, Repr

namespace Counter

/-- The name of a counter, and its label if it has one. -/
def label : Counter → String × Option (String × String)
  | itemsDispatched stream =>
      ("webrtc_proxy_items_dispatched_total", some ("kind", stream.name))
  | itemsDropped stream =>
      ("webrtc_proxy_items_dropped_total", some ("kind", stream.name))
  | offersRejected => ("webrtc_proxy_offers_rejected_total", none)
  | sessionsOpened => ("webrtc_proxy_sessions_opened_total", none)
  | sessionsClosed => ("webrtc_proxy_sessions_closed_total", none)
  | malformedFrames defect =>
      ("webrtc_proxy_malformed_frames_total", some ("reason", defect.name))
  | packetsReceived => ("webrtc_proxy_rtp_packets_received_total", none)
  | packetDecodeErrors => ("webrtc_proxy_rtp_decode_errors_total", none)
  | announcementsReceived =>
      ("webrtc_proxy_bus_announcements_received_total", none)
  | eventsReceived => ("webrtc_proxy_bus_events_received_total", none)
  | eventsDropped => ("webrtc_proxy_bus_events_dropped_total", none)
  | eventsSent => ("webrtc_proxy_bus_events_sent_total", none)
  | peersEvicted => ("webrtc_proxy_bus_peers_evicted_total", none)
  | busDecodeErrors channel =>
      ("webrtc_proxy_bus_decode_errors_total", some ("channel", channel.name))

def render (counter : Counter) : String :=
  match counter.label with
  | (name, none) => name
  | (name, some (key, value)) => name ++ "\x7b" ++ key ++ "=" ++ value ++ "\x7d"

end Counter

/-- The counts so far. What is not in the map has not happened. -/
abbrev Tally := Keyed Counter Nat

namespace Tally

def none : Tally := .empty

def get (tally : Tally) (counter : Counter) : Nat :=
  (tally.get? counter).getD 0

/-- Count something a number of times. -/
def add (tally : Tally) (counter : Counter) (n : Nat) : Tally :=
  tally.put counter (tally.get counter + n)

/-- Count something once. -/
def count (tally : Tally) (counter : Counter) : Tally := tally.add counter 1

/-- The counters that are not zero, by their rendered names. -/
def report (tally : Tally) : List (String × Nat) :=
  (tally.entries.filter (·.2 ≠ 0)).map fun (counter, n) => (counter.render, n)

theorem get_add (tally : Tally) (counter other : Counter) (n : Nat) :
    (tally.add counter n).get other =
      tally.get other + if other = counter then n else 0 := by
  simp only [get, add, Keyed.get?_put]
  split <;> simp_all

theorem get_count (tally : Tally) (counter other : Counter) :
    (tally.count counter).get other =
      tally.get other + if other = counter then 1 else 0 :=
  tally.get_add counter other 1

end Tally

end LanRelay
