/-
What a signaling front door asks for and is answered, and the record forms of
it.
-/
import LanRelay.Document
import LanRelay.Session.Description
import LanRelay.SessionId

namespace LanRelay

open Document

namespace Description

def ofDocument? (dialect : Dialect) (document : Document) :
    Option Description := do
  let fields ← document.fields? dialect ["type", "sdp"]
  let kind ← fields.need "type" (variant? dialect ["offer", "answer"])
  let sdp ← fields.need "sdp" text?
  return { kind := if kind = "offer" then .offer else .answer, sdp }

def toDocument (description : Description) : Document :=
  ofFields [("type", ofText description.kind.name),
    ("sdp", ofText description.sdp)]

instance : AsDocument Description := ⟨ofDocument?, toDocument⟩

end Description

/-- Ask for a session. -/
structure SessionRequest where
  offer : Description

namespace SessionRequest

def ofDocument? (dialect : Dialect) (document : Document) :
    Option SessionRequest := do
  let fields ← document.fields? dialect ["offer"]
  let offer ← fields.need "offer" (Description.ofDocument? dialect)
  return { offer }

def toDocument (request : SessionRequest) : Document :=
  ofFields [("offer", request.offer.toDocument)]

instance : AsDocument SessionRequest := ⟨ofDocument?, toDocument⟩

end SessionRequest

/-- The new session, and the answer to its offer. -/
structure SessionResponse where
  id : SessionId
  answer : Description

namespace SessionResponse

def ofDocument? (dialect : Dialect) (document : Document) :
    Option SessionResponse := do
  let fields ← document.fields? dialect ["session_id", "answer"]
  let id ← fields.need "session_id" text?
  let answer ← fields.need "answer" (Description.ofDocument? dialect)
  return { id, answer }

def toDocument (response : SessionResponse) : Document :=
  ofFields [("session_id", ofText response.id),
    ("answer", response.answer.toDocument)]

instance : AsDocument SessionResponse := ⟨ofDocument?, toDocument⟩

end SessionResponse

/-- Ask for the fan-out to run. -/
structure StreamRequest where

namespace StreamRequest

def ofDocument? (dialect : Dialect) (document : Document) :
    Option StreamRequest :=
  (document.fields? dialect []).map fun _ => {}

def toDocument (_ : StreamRequest) : Document := ofFields []

instance : AsDocument StreamRequest := ⟨ofDocument?, toDocument⟩

end StreamRequest

/-- Whether the fan-out was started by the request, and how many sessions
there are. -/
structure StreamResponse where
  started : Bool
  sessions : UInt64

namespace StreamResponse

def ofDocument? (dialect : Dialect) (document : Document) :
    Option StreamResponse := do
  let fields ← document.fields? dialect ["started", "sessions"]
  let started ← fields.need "started" bool?
  let sessions ← fields.need "sessions" (natural? UInt64.size)
  return { started, sessions := UInt64.ofNat sessions }

def toDocument (response : StreamResponse) : Document :=
  ofFields [("started", .bool response.started),
    ("sessions", .whole response.sessions.toNat)]

instance : AsDocument StreamResponse := ⟨ofDocument?, toDocument⟩

end StreamResponse

end LanRelay
