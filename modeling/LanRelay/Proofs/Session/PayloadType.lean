/-
The payload type of a session, from the offer to the wire.

What is negotiated is any number below 256 but zero, and the sink of a session
puts it into every packet. Seven bits of it are written. So the browser gets
what was negotiated if that is below 128, and what is left of it by 128
otherwise; all else in a packet comes through.

Main statement: `negotiated_type_is_written_mod_128`.
-/
import LanRelay.Proofs.Rtp.NormalForm
import LanRelay.Proofs.Session.Tracks
import LanRelay.Session.Proxy.Supervision

namespace LanRelay

open Rtp (Packet)

/-! What is negotiated. -/

/-- The session that is set up for an offer has the payload type that the offer
has for the codec. -/
theorem Proxy.initiate_of_resolve {proxy : Proxy} {offer : Description}
    {payloadType : UInt8} (htakes : proxy.takesPeers = true)
    (h : offer.resolvePayloadType proxy.settings.codec = .ok payloadType)
    (id : SessionId) :
    ∃ answer, (proxy.initiate offer id).2 =
        .ok (proxy.sessions.length, answer) ∧
      (proxy.initiate offer id).1.sessions =
        proxy.sessions ++ [({ id, payloadType } : Session)] := by
  simp only [initiate, h, negotiate, htakes, if_true]
  exact ⟨_, rfl, trivial⟩

/-! What is written to a track. -/

/-- The browser is there, and the track is not full. -/
structure Link.HasRoom (link : Link) : Prop where
  hasSender : link.media.hasSender = true
  hasReceiver : link.media.hasReceiver = true
  room : link.media.items.length < link.media.capacity

theorem PacketSink.write_track_of_hasRoom {scene : Scene} {number : Nat}
    {link : Link} (hlink : scene.links[number]? = some link)
    (hroom : link.HasRoom) (payloadType : UInt8) (packet : Packet) :
    ∃ scene', write packet (track number payloadType, scene) =
        some (.ok (), track number payloadType, scene') ∧
      scene'.media number =
        scene.media number ++ [{ packet with payloadType }] := by
  have hwrite : link.writePacket { packet with payloadType } =
      .ready { link with media := { link.media with
        items := link.media.items ++ [{ packet with payloadType }] } } := by
    simp [Link.writePacket, Pipe.send, hroom.hasSender, hroom.hasReceiver,
      hroom.room, Polled.map]
  refine ⟨scene.setLink number { link with media := { link.media with
    items := link.media.items ++ [{ packet with payloadType }] } }, ?_, ?_⟩
  · simp only [write, Scene.onLink, hlink, hwrite]
    rfl
  · rw [Scene.media_setLink_write _ hlink, if_pos rfl]

/-! What the browser reads. -/

namespace Rtp

variable {packet : Packet}

/-- Writing changes nothing but the new payload type. -/
theorem Packet.Canonical.normalForm_retyped (h : packet.Canonical)
    (payloadType : UInt8) :
    ({ packet with payloadType } : Packet).normalForm =
      packet.withPayloadType payloadType := by
  calc ({ packet with payloadType } : Packet).normalForm
      = { packet.normalForm with
          payloadType := UInt8.ofNat (payloadType.toNat % 128) } := rfl
    _ = packet.withPayloadType payloadType := by
      rw [h.normalForm_eq, withPayloadType]

theorem Packet.parse_marshal_withPayloadType (h : packet.Canonical)
    (payloadType : UInt8) :
    parse (marshal { packet with payloadType }) =
      .ok (packet.withPayloadType payloadType) := by
  rw [← h.normalForm_retyped]
  exact parse_marshal fun ext hext => (h.ext ext hext).fits

theorem Packet.payloadType_withPayloadType_eq_iff (packet : Packet)
    (payloadType : UInt8) :
    (packet.withPayloadType payloadType).payloadType = payloadType ↔
      payloadType.toNat < 128 := by
  have hbound := payloadType.toNat_lt
  rw [withPayloadType, ← UInt8.toNat_inj, UInt8.toNat_ofNat']
  omega

end Rtp

/-- The session that is set up for an offer writes every packet that was read
from the media socket to its track under the payload type that the offer has
for the codec. On the wire this is read back as the packet that came in, with
seven bits of that payload type; so it is what was negotiated if and only if
that is below 128. -/
theorem negotiated_type_is_written_mod_128 (proxy : Proxy)
    (htakes : proxy.takesPeers = true) (offer : Description)
    (payloadType : UInt8)
    (hresolve : offer.resolvePayloadType proxy.settings.codec =
      .ok payloadType)
    (id : SessionId) (bytes : Bytes) (packet : Packet)
    (hparse : Packet.parse bytes = .ok packet) :
    let number := proxy.sessions.length
    let later := (proxy.initiate offer id).1
    ∃ answer session,
      (proxy.initiate offer id).2 = .ok (number, answer) ∧
      later.sessions[number]? = some session ∧
      (∀ scene link, scene.links[number]? = some link → link.HasRoom →
        ∃ written scene',
          Sink.write packet ((later.trackOutlet number session).sink, scene) =
            some (.ok (), (later.trackOutlet number session).sink, scene') ∧
          scene'.media number = scene.media number ++ [written] ∧
          Packet.parse written.marshal =
            .ok (packet.withPayloadType payloadType)) ∧
      ((packet.withPayloadType payloadType).payloadType = payloadType ↔
        payloadType.toNat < 128) := by
  intro number later
  obtain ⟨answer, hanswer, hsessions⟩ :=
    Proxy.initiate_of_resolve htakes hresolve id
  have hcanonical := (Rtp.read_eq_ok_iff.mp (Rtp.parse_eq_ok_iff.mp hparse)).1
  refine ⟨answer, { id, payloadType }, hanswer, ?_, ?_,
    packet.payloadType_withPayloadType_eq_iff payloadType⟩
  · rw [show later.sessions = _ from hsessions,
      List.getElem?_append_right (Nat.le_refl _), Nat.sub_self]
    rfl
  · intro scene link hlink hroom
    obtain ⟨scene', hwrite, hmedia⟩ :=
      PacketSink.write_track_of_hasRoom hlink hroom payloadType packet
    exact ⟨_, scene', hwrite, hmedia,
      Packet.parse_marshal_withPayloadType hcanonical payloadType⟩

/-- Nothing has been set up, and browsers may come. -/
def sampleProxy : Proxy :=
  .create { codec := "VP8", ssrc := 7, frameBytes := 1024, sinks := {} } 1 1

/-- An offer of the codec under the payload type that is spelled out. -/
def offerUnder (payloadType : String) : Description where
  kind := .offer
  sdp := "m=video 9 UDP/TLS/RTP/SAVPF 96\na=rtpmap:" ++ payloadType ++
    " VP8/90000\n"

def samplePacketBytes : Bytes :=
  [0x80, 0xe0, 0, 1, 0, 0, 0, 2, 0, 0, 0, 3, 0xff]

def proxyUnder (payloadType : String) : Proxy :=
  (sampleProxy.initiate (offerUnder payloadType) "a").1

/-- Under 102 the packet comes through as negotiated. -/
theorem negotiated_type_is_written_mod_128_of_sample :
    (offerUnder "102").resolvePayloadType "VP8" = .ok 102 ∧
      ∃ session written scene',
        (proxyUnder "102").sessions[0]? = some session ∧
        Sink.write ⟨true, 96, 1, 2, 3, [], none, [0xff]⟩
            (((proxyUnder "102").trackOutlet 0 session).sink,
              (proxyUnder "102").scene) =
          some (.ok (), ((proxyUnder "102").trackOutlet 0 session).sink,
            scene') ∧
        scene'.media 0 = [written] ∧
        Packet.parse written.marshal =
          .ok ⟨true, 102, 1, 2, 3, [], none, [0xff]⟩ := by
  have hresolve : (offerUnder "102").resolvePayloadType "VP8" = .ok 102 := by
    rfl
  have hparse : Packet.parse samplePacketBytes =
      .ok ⟨true, 96, 1, 2, 3, [], none, [0xff]⟩ := by rfl
  obtain ⟨answer, session, -, hsession, hwrites, -⟩ :=
    negotiated_type_is_written_mod_128 sampleProxy rfl (offerUnder "102") 102
      hresolve "a" samplePacketBytes _ hparse
  obtain ⟨written, scene', hwrite, hmedia, hread⟩ :=
    hwrites (proxyUnder "102").scene _ rfl ⟨rfl, rfl, by decide⟩
  exact ⟨hresolve, session, written, scene', hsession, hwrite, hmedia, hread⟩

/-- Under 200 the browser gets a packet of the payload type 72. -/
theorem negotiated_type_is_lost_above_127 :
    (offerUnder "200").resolvePayloadType "VP8" = .ok 200 ∧
      ∃ packet session scene' written received,
        Packet.parse samplePacketBytes = .ok packet ∧
        (proxyUnder "200").sessions[0]? = some session ∧
        Sink.write packet (((proxyUnder "200").trackOutlet 0 session).sink,
            (proxyUnder "200").scene) =
          some (.ok (), ((proxyUnder "200").trackOutlet 0 session).sink,
            scene') ∧
        scene'.media 0 = [written] ∧
        Packet.parse written.marshal = .ok received ∧
        received.payloadType = 72 :=
  ⟨rfl, _, _, _, _, _, rfl, rfl, rfl, rfl, rfl, rfl⟩

end LanRelay
