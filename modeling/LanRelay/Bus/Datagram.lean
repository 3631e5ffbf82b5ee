/-
Announcements and events as datagrams.

A datagram of the presence channel is an announcement. A datagram of the event
channel is an event or an announcement; it is taken for an event first. The
numbers of both kinds of fields are those of the well-known timestamp and
payload messages. No datagram is longer than 1024 bytes.
-/
import LanRelay.Bus.Message
import LanRelay.Wire.Schema

namespace LanRelay

open LanRelay.Wire

/-- The most bytes of an announcement or event on the wire. -/
def maxDatagram : Nat := 1024

namespace Timestamp

/-- The timestamp message. -/
def schema : Schema Timestamp where
  name := "Timestamp"
  fields := [
    (1, .number "seconds" fun n ts =>
      { ts with seconds := (UInt64.ofNat n).toInt64 }),
    (2, .number "nanos" fun n ts =>
      { ts with nanos := (UInt32.ofNat n).toInt32 })]

/-- The fields of a timestamp; a negative fraction is written in 64 bits. -/
def toWire (ts : Timestamp) : Bytes :=
  writeNumber 1 ts.seconds.toUInt64.toNat ++
    writeNumber 2 ts.nanos.toInt64.toUInt64.toNat

end Timestamp

namespace Payload

/-- The payload message. -/
def schema : Schema Payload where
  name := "Any"
  fields := [
    (1, .text "type_url" fun text payload => { payload with typeUrl := text }),
    (2, .bytes "value" fun bytes payload => { payload with value := bytes })]

def toWire (payload : Payload) : Bytes :=
  writeBytes 1 (Bytes.ofText payload.typeUrl) ++ writeBytes 2 payload.value

end Payload

/-- Let a message through if it fits into a datagram. -/
def bounded (what : String) (bytes : Bytes) : Except Fault Bytes :=
  if maxDatagram < bytes.length then
    .error (.oversized what bytes.length maxDatagram)
  else .ok bytes

namespace Announcement

/-- An announcement as it stands on the wire, where the port is any 32-bit
number and the stamps may be missing. -/
structure Draft where
  host : String
  port : Int32
  service : String
  stamp : Option Timestamp
  receiveStamp : Option Timestamp

def Draft.blank : Draft := ⟨"", 0, "", none, none⟩

def schema : Schema Draft where
  name := "AnnounceProto"
  fields := [
    (1, .text "host" fun text draft => { draft with host := text }),
    (2, .number "port" fun n draft =>
      { draft with port := (UInt32.ofNat n).toInt32 }),
    (3, .text "service" fun text draft => { draft with service := text }),
    (4, .inner "stamp" Timestamp.schema (·.stamp.getD .zero)
      fun ts draft => { draft with stamp := some ts }),
    (5, .inner "recv_stamp" Timestamp.schema (·.receiveStamp.getD .zero)
      fun ts draft => { draft with receiveStamp := some ts })]

/-- The bytes of an announcement, whatever their number. -/
def toWire (announcement : Announcement) : Bytes :=
  writeBytes 1 (Bytes.ofText announcement.host) ++
    writeNumber 2 announcement.port.toNat ++
    writeBytes 3 (Bytes.ofText announcement.service) ++
    writeDelimited 4 announcement.sentAt.toWire ++
    match announcement.receivedAt with
    | none => []
    | some ts => writeDelimited 5 ts.toWire

def encode (announcement : Announcement) : Except Fault Bytes :=
  bounded "announcement" announcement.toWire

def decode (bytes : Bytes) : Except Fault Announcement := do
  let what := "announcement"
  let bytes ← bounded what bytes
  match schema.read .blank bytes with
  | .error failure => .error (.decode what failure.message)
  | .ok draft =>
      if 0 ≤ draft.port.toInt ∧ draft.port.toInt < 65536 then
        return {
          host := draft.host
          port := UInt16.ofNat draft.port.toInt.toNat
          service := draft.service
          sentAt := draft.stamp.getD .zero
          receivedAt := draft.receiveStamp }
      else
        .error (.decode what s!"port {draft.port.toInt} out of range")

end Announcement

namespace Event

/-- An event as it stands on the wire, where stamp and payload may be
missing. -/
structure Draft where
  stamp : Option Timestamp
  name : String
  data : Option Payload

def Draft.blank : Draft := ⟨none, "", none⟩

def schema : Schema Draft where
  name := "EventProto"
  fields := [
    (1, .inner "stamp" Timestamp.schema (·.stamp.getD .zero)
      fun ts draft => { draft with stamp := some ts }),
    (2, .text "name" fun text draft => { draft with name := text }),
    (3, .inner "data" Payload.schema (·.data.getD (.raw []))
      fun payload draft => { draft with data := some payload })]

/-- The bytes of an event, whatever their number. -/
def toWire (event : Event) : Bytes :=
  writeDelimited 1 event.stamp.toWire ++
    writeBytes 2 (Bytes.ofText event.name) ++
    writeDelimited 3 event.data.toWire

def encode (event : Event) : Except Fault Bytes :=
  bounded "event" event.toWire

def decode (bytes : Bytes) : Except Fault Event := do
  let what := "event"
  let bytes ← bounded what bytes
  match schema.read .blank bytes with
  | .error failure => .error (.decode what failure.message)
  | .ok draft =>
      return {
        name := draft.name
        stamp := draft.stamp.getD .zero
        data := draft.data.getD (.raw []) }

end Event

/-- A datagram of the event channel. -/
inductive Datagram where
  | announcement (announcement : Announcement)
  | event (event : Event)
deriving DecidableEq, Repr

namespace Datagram

def encode : Datagram → Except Fault Bytes
  | announcement a => a.encode
  | event e => e.encode

/-- Read an event, or else an announcement; if it is neither, the failure is
that of the event. -/
def decode (bytes : Bytes) : Except Fault Datagram :=
  match Event.decode bytes with
  | .ok e => .ok (.event e)
  | .error fault =>
      if fault.isDecode then
        match Announcement.decode bytes with
        | .ok a => .ok (.announcement a)
        | .error _ => .error fault
      else .error fault

end Datagram

end LanRelay
