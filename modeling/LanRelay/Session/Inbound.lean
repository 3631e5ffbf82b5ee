/-
What comes in on a data channel: each frame is one encoded event.

A frame that is too long or not well formed is skipped, and reading goes on
with the next one, until the channel ends or fails.
-/
import LanRelay.Bus.Datagram
import LanRelay.Stats.Tally

namespace LanRelay

/-- What the reader of a data channel gets next. -/
inductive Reading where
  | frame (bytes : Bytes)
  | ended
  | failed (fault : Fault)

/-- What a frame comes to. -/
inductive Inbound where
  | event (event : Event)
  | skipped (defect : FrameDefect)

namespace Inbound

/-- Read a frame of at most so many bytes. -/
def ofFrame (frameBytes : Nat) (frame : Bytes) : Inbound :=
  if frameBytes < frame.length then skipped .oversized
  else
    match Event.decode frame with
    | .ok e => event e
    | .error fault => skipped (if fault.isDecode then .decode else .other)

def event? : Inbound → Option Event
  | event e => some e
  | skipped _ => none

def defect? : Inbound → Option FrameDefect
  | event _ => none
  | skipped defect => some defect

end Inbound

end LanRelay
