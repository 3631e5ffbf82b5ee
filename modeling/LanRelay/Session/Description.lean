/-
Session descriptions and the codecs that they offer.

A description is a text of lines. A line `m=<media> ...` begins a section, and
a line `a=rtpmap:<type> <name>/<clock>` in a section offers a codec under a
payload type. All other lines, and offers that are not well formed, say
nothing.
-/
import LanRelay.Session.Fault
import LanRelay.Text.Blank
import LanRelay.Text.Digits

namespace LanRelay

open LanRelay.Text

/-- Which side of a negotiation a description comes from. -/
inductive DescriptionKind where
  | offer
  | answer
deriving DecidableEq, Repr

def DescriptionKind.name : DescriptionKind → String
  | offer => "offer"
  | answer => "answer"

structure Description where
  kind : DescriptionKind
  sdp : String
deriving DecidableEq, Repr

/-- A codec as one line of a description offers it. -/
structure OfferedCodec where
  media : String
  payloadType : UInt8
  name : String
  clockRate : UInt32
deriving DecidableEq, Repr

namespace OfferedCodec

/-- Read `<type> <name>/<clock>`, the rest of an offering line. The clock is
zero if it is missing or no number. -/
def parse? (media : String) (value : List Char) : Option OfferedCodec := do
  let (type, encoding) ← cutAt? ' ' value
  let payloadType ← byte? (String.ofList (trim type))
  let parts := splitAt '/' (trim encoding)
  let name ← parts.head?
  let clockRate := (parts[1]?.bind fun clock => word32? (String.ofList clock)).getD 0
  return { media, payloadType, name := String.ofList name, clockRate }

end OfferedCodec

namespace Description

/-- What a line says. -/
inductive Line where
  | media (kind : String)
  | codec (value : List Char)
  | other
deriving DecidableEq

/-- Blank characters around a line do not count. -/
def readLine (line : List Char) : Line :=
  let line := trim line
  match stripStart? "m=".toList line with
  | some rest => .media (String.ofList (firstWord rest))
  | none =>
      match stripStart? "a=rtpmap:".toList line with
      | some rest => .codec rest
      | none => .other

/-- The codecs that lines offer, in their order. The lines before the first
section belong to `media`. -/
def codecsOfLines (media : String) : List Line → List OfferedCodec
  | [] => []
  | .media kind :: lines => codecsOfLines kind lines
  | .codec value :: lines =>
      (OfferedCodec.parse? media value).toList ++ codecsOfLines media lines
  | .other :: lines => codecsOfLines media lines

/-- The codecs that a text offers, in the order of their lines. -/
def offeredCodecs (sdp : String) : List OfferedCodec :=
  codecsOfLines "" ((splitAt '\n' sdp.toList).map readLine)

/-- An offer of the video codec of the given name. Payload type zero stands
for no payload type. -/
def offers (codec : String) (offered : OfferedCodec) : Bool :=
  offered.media == "video" && sameIgnoringAsciiCase offered.name codec &&
    offered.payloadType != 0

/-- The payload type under which a description offers a video codec; the
first one if it is offered more than once. -/
def resolvePayloadType (offer : Description) (codec : String) :
    Except SessionFault UInt8 :=
  if offer.kind = .offer then
    match (offeredCodecs offer.sdp).find? (offers codec) with
    | some offered => .ok offered.payloadType
    | none => .error (.capabilityMismatch codec)
  else .error (.invalidDescription "expected an offer")

end Description

end LanRelay
