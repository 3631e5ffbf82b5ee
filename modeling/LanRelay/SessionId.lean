/-
Session identifiers.
-/
import LanRelay.Document

namespace LanRelay

open Document

/-- A session is known by a text of its own. -/
abbrev SessionId := String

namespace SessionId

def ofDocument? (document : Document) : Option SessionId := document.text?

def toDocument (id : SessionId) : Document := ofText id

instance : AsDocument SessionId := ⟨fun _ => ofDocument?, toDocument⟩

end SessionId

end LanRelay
