/-
RTP packets: the fixed header, the contributing sources, a header extension
and the payload.

Reading drops padding and keeps everything else. Writing keeps at most fifteen
contributing sources and seven bits of the payload type, and fills the last
word of an extension with zeros; a packet on which these do nothing is
canonical.
-/
import LanRelay.Fault
import LanRelay.Bytes

namespace LanRelay.Rtp

/-- A header extension: a profile and a body of whole words. -/
structure Extension where
  profile : UInt16
  body : Bytes
deriving DecidableEq, Repr

structure Packet where
  marker : Bool
  payloadType : UInt8
  sequence : UInt16
  timestamp : UInt32
  ssrc : UInt32
  contributors : List UInt32
  ext : Option Extension
  payload : Bytes
deriving DecidableEq, Repr

/-- The longest datagram that is read from the media socket. -/
def maxPacket : Nat := 4096

/-- How many contributing sources a header has room for. -/
def maxContributors : Nat := 15

/-- Why a datagram is not a packet. -/
inductive Defect where
  | tooShort (size : Nat)
  | unsupportedVersion (version : Nat)
  | truncatedContributors
  | truncatedExtensionHeader
  | truncatedExtensionBody
  | invalidPadding (padding : Nat)
deriving DecidableEq, Repr

def Defect.message : Defect → String
  | tooShort size => s!"packet too short: {size} bytes"
  | unsupportedVersion version => s!"unsupported version {version}"
  | truncatedContributors => "truncated csrc list"
  | truncatedExtensionHeader => "truncated extension header"
  | truncatedExtensionBody => "truncated extension body"
  | invalidPadding padding => s!"invalid padding {padding}"

/-- Read `n` words from the front. -/
def readWords : (n : Nat) → Bytes → Option (List UInt32 × Bytes)
  | 0, rest => some ([], rest)
  | n + 1, b₃ :: b₂ :: b₁ :: b₀ :: rest =>
      (readWords n rest).map fun (words, rest) =>
        (word32 b₃ b₂ b₁ b₀ :: words, rest)
  | _ + 1, _ => none

/-- Read a header extension from the front. -/
def readExtension : Bytes → Except Defect (Extension × Bytes)
  | p₁ :: p₀ :: n₁ :: n₀ :: rest =>
      let size := 4 * (word16 n₁ n₀).toNat
      if rest.length < size then .error .truncatedExtensionBody
      else .ok (⟨word16 p₁ p₀, rest.take size⟩, rest.drop size)
  | _ => .error .truncatedExtensionHeader

/-- Drop the padding from the payload. The last byte of the datagram counts
the bytes to drop, itself included. -/
def dropPadding (last : UInt8) (payload : Bytes) : Except Defect Bytes :=
  let padding := last.toNat
  if padding = 0 ∨ payload.length < padding then
    .error (.invalidPadding padding)
  else .ok (payload.take (payload.length - padding))

namespace Packet

/-- Read a datagram, or say what is wrong with it. -/
def read : Bytes → Except Defect Packet
  | b₀ :: b₁ :: s₁ :: s₀ :: t₃ :: t₂ :: t₁ :: t₀ :: i₃ :: i₂ :: i₁ :: i₀ ::
      body => do
    if b₀.toNat / 64 ≠ 2 then
      throw (.unsupportedVersion (b₀.toNat / 64))
    let some (contributors, rest) := readWords (b₀.toNat % 16) body
      | throw .truncatedContributors
    let (ext, rest) ←
      if b₀.toNat / 16 % 2 = 1 then
        (readExtension rest).map fun (ext, rest) => (some ext, rest)
      else pure (none, rest)
    let payload ←
      if b₀.toNat / 32 % 2 = 1 then dropPadding (body.getLastD i₀) rest
      else pure rest
    return {
      marker := b₁.toNat / 128 = 1
      payloadType := UInt8.ofNat (b₁.toNat % 128)
      sequence := word16 s₁ s₀
      timestamp := word32 t₃ t₂ t₁ t₀
      ssrc := word32 i₃ i₂ i₁ i₀
      contributors, ext, payload }
  | bytes => .error (.tooShort bytes.length)

def parse (bytes : Bytes) : Except Fault Packet :=
  (read bytes).mapError fun defect => .rtp defect.message

/-- The words that a header extension takes. -/
def extensionWords (ext : Extension) : Nat := (ext.body.length + 3) / 4

/-- A header extension with its last word filled up. -/
def writeExtension (ext : Extension) : Bytes :=
  let words := extensionWords ext
  bytes16 ext.profile ++ bytes16 (UInt16.ofNat words) ++ ext.body ++
    List.replicate (4 * words - ext.body.length) 0

/-- The bytes of a packet, without padding. -/
def marshal (packet : Packet) : Bytes :=
  let contributors := packet.contributors.take maxContributors
  let extBit := if packet.ext.isSome then 16 else 0
  let markerBit := if packet.marker then 128 else 0
  [UInt8.ofNat (128 + extBit + contributors.length),
      UInt8.ofNat (markerBit + packet.payloadType.toNat % 128)] ++
    bytes16 packet.sequence ++ bytes32 packet.timestamp ++
    bytes32 packet.ssrc ++ contributors.flatMap bytes32 ++
    (packet.ext.map writeExtension).getD [] ++ packet.payload

/-- The same packet with another payload type, of which seven bits count. -/
def withPayloadType (packet : Packet) (payloadType : UInt8) : Packet :=
  { packet with payloadType := UInt8.ofNat (payloadType.toNat % 128) }

/-- The same packet under another stream identifier. -/
def withSsrc (packet : Packet) (ssrc : UInt32) : Packet :=
  { packet with ssrc }

end Packet

end LanRelay.Rtp
