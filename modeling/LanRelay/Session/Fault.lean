/-
The failures of setting up a session, and which of them are the caller's
fault.
-/
import LanRelay.Fault

namespace LanRelay

inductive SessionFault where
  /-- The offer has no usable codec of the required name. -/
  | capabilityMismatch (codec : String)
  | invalidDescription (detail : String)
  | negotiation (detail : String)
  | registry (fault : RegistryFault)
  | fault (fault : Fault)
deriving DecidableEq, Repr

namespace SessionFault

def message : SessionFault → String
  | capabilityMismatch codec => s!"remote peer does not support {codec}"
  | invalidDescription detail => s!"invalid session description: {detail}"
  | negotiation detail => s!"negotiation failed: {detail}"
  | registry f => f.message
  | fault f => f.message

/-- The kind of a failure, in one word. -/
def kind : SessionFault → String
  | capabilityMismatch _ => "CapabilityMismatch"
  | invalidDescription _ => "InvalidDescription"
  | negotiation _ => "Negotiation"
  | registry _ => "Dispatcher"
  | fault _ => "Contract"

/-- The same request can never succeed. -/
def isRejection : SessionFault → Bool
  | capabilityMismatch _ | invalidDescription _ => true
  | _ => false

end SessionFault

end LanRelay
