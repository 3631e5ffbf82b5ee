/-
Timestamps, payloads, announcements and events as records.
-/
import LanRelay.Bus.Message
import LanRelay.Document

namespace LanRelay

open Document

namespace Timestamp

def ofDocument? (dialect : Dialect) (document : Document) :
    Option Timestamp := do
  let fields ← document.fields? dialect ["seconds", "nanos"]
  let seconds ← fields.need "seconds"
    (integer? Int64.minValue.toInt Int64.maxValue.toInt)
  let nanos ← fields.need "nanos"
    (integer? Int32.minValue.toInt Int32.maxValue.toInt)
  return ⟨Int64.ofInt seconds, Int32.ofInt nanos⟩

def toDocument (ts : Timestamp) : Document :=
  ofFields [("seconds", .whole ts.seconds.toInt),
    ("nanos", .whole ts.nanos.toInt)]

instance : AsDocument Timestamp := ⟨ofDocument?, toDocument⟩

end Timestamp

namespace Payload

def ofDocument? (dialect : Dialect) (document : Document) :
    Option Payload := do
  let fields ← document.fields? dialect ["type_url", "value"]
  let typeUrl ← fields.need "type_url" Document.text?
  let value ← fields.need "value" bytes?
  return { typeUrl, value }

def toDocument (payload : Payload) : Document :=
  ofFields [("type_url", Document.ofText payload.typeUrl),
    ("value", ofBytes payload.value)]

instance : AsDocument Payload := ⟨ofDocument?, toDocument⟩

end Payload

namespace Announcement

def ofDocument? (dialect : Dialect) (document : Document) :
    Option Announcement := do
  let fields ← document.fields? dialect
    ["host", "port", "service", "sent_at", "received_at"]
  let host ← fields.need "host" text?
  let port ← fields.need "port" (natural? 65536)
  let service ← fields.need "service" text?
  let sentAt ← fields.need "sent_at" (Timestamp.ofDocument? dialect)
  let receivedAt ←
    fields.optional "received_at" (Timestamp.ofDocument? dialect)
  return { host, port := UInt16.ofNat port, service, sentAt, receivedAt }

def toDocument (announcement : Announcement) : Document :=
  ofFields [("host", ofText announcement.host),
    ("port", .whole announcement.port.toNat),
    ("service", ofText announcement.service),
    ("sent_at", announcement.sentAt.toDocument),
    ("received_at",
      match announcement.receivedAt with
      | none => .null
      | some ts => ts.toDocument)]

instance : AsDocument Announcement := ⟨ofDocument?, toDocument⟩

end Announcement

namespace Event

def ofDocument? (dialect : Dialect) (document : Document) :
    Option Event := do
  let fields ← document.fields? dialect ["name", "stamp", "data"]
  let name ← fields.need "name" text?
  let stamp ← fields.need "stamp" (Timestamp.ofDocument? dialect)
  let data ← fields.need "data" (Payload.ofDocument? dialect)
  return { name, stamp, data }

def toDocument (event : Event) : Document :=
  ofFields [("name", ofText event.name), ("stamp", event.stamp.toDocument),
    ("data", event.data.toDocument)]

instance : AsDocument Event := ⟨ofDocument?, toDocument⟩

end Event

end LanRelay
