/-
What bus participants tell each other: announcements of their presence, and
named events.
-/
import LanRelay.Bytes
import LanRelay.Time.Timestamp

namespace LanRelay

/-- A participant's word that it is alive. Host and port are where it says it
receives events; `receivedAt` is set by whoever hears the announcement. -/
structure Announcement where
  host : String
  port : UInt16
  service : String
  sentAt : Timestamp
  receivedAt : Option Timestamp
deriving DecidableEq, Repr

/-- The announcement as heard at the given time. -/
def Announcement.stamped (announcement : Announcement) (at_ : Timestamp) :
    Announcement :=
  { announcement with receivedAt := some at_ }

/-- What an event carries: bytes, and a name for how they are encoded. -/
structure Payload where
  typeUrl : String
  value : Bytes
deriving DecidableEq, Repr, Inhabited

namespace Payload

/-- The name of the encoding of plain text. -/
def textTypeUrl : String := "text/plain"

/-- Bytes without a named encoding. -/
def raw (value : Bytes) : Payload := ⟨"", value⟩

def ofText (text : String) : Payload := ⟨textTypeUrl, Bytes.ofText text⟩

/-- The text of a payload that is encoded as one. -/
def text? (payload : Payload) : Option String :=
  if payload.typeUrl = textTypeUrl then payload.value.toText? else none

end Payload

/-- A named event. Of the events of one name only the latest is kept. -/
structure Event where
  name : String
  stamp : Timestamp
  data : Payload
deriving DecidableEq, Repr

end LanRelay
