/-
The table of peers: the latest announcement of each, by the address that it
came from.

An entry is live while its receive time is valid and not too long ago. Only
live entries are targets, and sweeping removes the others.
-/
import LanRelay.Bus.Message
import LanRelay.Config.Blueprint
import LanRelay.Keyed
import LanRelay.Net.Address.Parser

namespace LanRelay

/-- A peer is live if it was heard at most `ttl` before `now`. One that was
never stamped, or with an invalid stamp, is not. -/
def Announcement.isLive (announcement : Announcement) (now : Instant)
    (ttl : Span) : Bool :=
  match announcement.receivedAt with
  | none => false
  | some ts =>
      match ts.ageAt now with
      | .ok age => age ≤ ttl
      | .error _ => false

/-- Where to send events for a peer; nowhere if it announces port zero. -/
def Announcement.deliveryAddress? (announcement : Announcement)
    (source : Endpoint) (target : DeliveryTarget) : Option Endpoint :=
  if announcement.port = 0 then none
  else
    let ip :=
      match target with
      | .sourceHost => source.ip
      | .selfReported =>
          match IpAddr.parse? announcement.host with
          | some ip => if ip.isUnspecified then source.ip else ip
          | none => source.ip
    some (.ofIp ip announcement.port)

/-- The peers by the source addresses of their announcements. -/
abbrev PeerTable := Keyed Endpoint Announcement

namespace PeerTable

/-- An announcement from an event socket belongs to an entry with the same
address that announces the port it came from. -/
def isSender (source key : Endpoint) (entry : Announcement) : Bool :=
  key.ip == source.ip && entry.port == source.port

/-- Take over the receive time of an announcement from an event socket into
the entries it belongs to. -/
def refresh (table : PeerTable) (source : Endpoint)
    (announcement : Announcement) : PeerTable :=
  table.mapValues fun key entry =>
    if isSender source key entry then
      { entry with receivedAt := announcement.receivedAt }
    else entry

/-- Some entry belongs to the sender of an event-socket announcement. -/
def hasSender (table : PeerTable) (source : Endpoint) : Bool :=
  table.entries.any fun (key, entry) => isSender source key entry

/-- The keys of the entries that are not live. -/
def staleKeys (table : PeerTable) (now : Instant) (ttl : Span) :
    List Endpoint :=
  (table.entries.filter fun (_, entry) => !entry.isLive now ttl).map (·.1)

/-- Remove the entries that are not live. -/
def sweep (table : PeerTable) (now : Instant) (ttl : Span) : PeerTable :=
  table.keepIf fun _ entry => entry.isLive now ttl

/-- The distinct addresses of live peers, in order. -/
def liveTargets (table : PeerTable) (now : Instant) (ttl : Span)
    (target : DeliveryTarget) : List Endpoint :=
  Endpoint.sortDistinct <| table.entries.filterMap fun (source, entry) =>
    if entry.isLive now ttl then entry.deliveryAddress? source target
    else none

end PeerTable

end LanRelay
