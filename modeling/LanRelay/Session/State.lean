/-
The states of a session and of its connection, and the reasons for which a
session is closed.
-/
import LanRelay.Stream

namespace LanRelay

/-- What the transport reports about a connection. -/
inductive ConnectionState where
  | new
  | connecting
  | connected
  | disconnected
  | failed
  | closed
deriving DecidableEq, Repr

namespace ConnectionState

def name : ConnectionState → String
  | new => "new"
  | connecting => "connecting"
  | connected => "connected"
  | disconnected => "disconnected"
  | failed => "failed"
  | closed => "closed"

/-- The connection never recovers. A disconnected one still may. -/
def isTerminal : ConnectionState → Bool
  | failed | closed => true
  | _ => false

end ConnectionState

/-- A session waits for its data channel, then serves both streams, and ends
closed. -/
inductive SessionState where
  | negotiating
  | established
  | closed
deriving DecidableEq, Repr

def SessionState.name : SessionState → String
  | negotiating => "negotiating"
  | established => "open"
  | closed => "closed"

inductive CloseReason where
  | dataChannelClosed
  | connection (state : ConnectionState)
  | transportDropped
  | sinkClosed (stream : Stream)
  | registrationFailed
  | shutdown
deriving DecidableEq, Repr

def CloseReason.message : CloseReason → String
  | dataChannelClosed => "data channel closed"
  | connection state => s!"connection {state.name}"
  | transportDropped => "transport dropped"
  | sinkClosed stream => s!"{stream.name} sink closed"
  | registrationFailed => "sink registration failed"
  | shutdown => "shutdown"

end LanRelay
