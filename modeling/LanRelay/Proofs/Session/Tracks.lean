/-
What workers write to the tracks of sessions.

A worker takes the packets of its outlet in order, and each packet that gets to
a track is written there once, under the payload type of the sink. Nothing
else that a worker does is seen on a track.

Main statement: `Outlet.work?_spec`.
-/
import LanRelay.Proofs.Flow.Waiting
import LanRelay.Session.Sinks
import Mathlib.Data.List.Basic

namespace LanRelay

open Rtp (Packet)

namespace Scene

/-- The packets on the track of a session that the browser has not taken. -/
def media (scene : Scene) (session : Nat) : List Packet :=
  ((scene.links[session]?).map (·.media.items)).getD []

/-- What was negotiated for each session. -/
def terms (scene : Scene) : List Terms := scene.links.map (·.terms)

@[simp]
theorem media_record (scene : Scene) (entry : LogRecord) :
    (scene.record entry).media = scene.media := rfl

theorem media_dropTrack (scene : Scene) (number : Nat) :
    (scene.adjustLink number Link.dropTrack).media = scene.media := by
  funext session
  simp only [media, adjustLink, List.getElem?_modify]
  cases scene.links[session]? with
  | none => rfl
  | some link =>
      by_cases h : number = session <;>
        simp [h, Link.dropTrack, Pipe.dropSender]

theorem terms_dropTrack (scene : Scene) (number : Nat) :
    (scene.adjustLink number Link.dropTrack).terms = scene.terms := by
  apply List.ext_getElem?
  intro session
  simp only [terms, adjustLink, List.getElem?_map, List.getElem?_modify]
  cases scene.links[session]? with
  | none => rfl
  | some link => by_cases h : number = session <;> simp [h, Link.dropTrack]

end Scene

namespace PacketSink

/-- The session of a track and the payload type for it. -/
def track? : PacketSink → Option (Nat × UInt8)
  | track session payloadType => some (session, payloadType)
  | log _ _ => none

theorem eq_track_of_track? {sink : PacketSink} {session : Nat}
    {payloadType : UInt8} (h : sink.track? = some (session, payloadType)) :
    sink = track session payloadType := by
  cases sink with
  | track owner payloadType' =>
      cases h
      rfl
  | log name items => cases h

/-- What packets come to on the track of a session. -/
def output (session : Nat) (packets : List Packet) : PacketSink → List Packet
  | track owner payloadType =>
      if owner = session then packets.map ({ · with payloadType }) else []
  | log _ _ => []

theorem output_of_track? {sink : PacketSink} {session : Nat}
    {payloadType : UInt8} (h : sink.track? = some (session, payloadType))
    (packets : List Packet) :
    sink.output session packets = packets.map ({ · with payloadType }) := by
  rw [eq_track_of_track? h]
  exact if_pos rfl

theorem output_eq_nil {sink : PacketSink} {session : Nat}
    (h : ∀ payloadType, sink.track? ≠ some (session, payloadType))
    (packets : List Packet) : sink.output session packets = [] := by
  cases sink with
  | track owner payloadType =>
      refine if_neg ?_
      rintro rfl
      exact h payloadType rfl
  | log name items => rfl

@[simp]
theorem output_nil (sink : PacketSink) (session : Nat) :
    sink.output session [] = [] := by
  cases sink <;> simp [output]

end PacketSink

theorem Link.eq_of_writePacket {link link' : Link} {packet : Packet}
    (h : link.writePacket packet = .ready link') :
    link' = { link with
      media := { link.media with items := link.media.items ++ [packet] } } := by
  unfold writePacket Pipe.send at h
  split at h
  · split at h
    · cases h
      rfl
    · cases h
  · cases h

namespace Scene

theorem media_setLink_write {scene : Scene} {number : Nat} {link : Link}
    (packet : Packet) (hlink : scene.links[number]? = some link)
    (session : Nat) :
    (scene.setLink number { link with
      media := { link.media with
        items := link.media.items ++ [packet] } }).media session =
      scene.media session ++ if number = session then [packet] else [] := by
  obtain ⟨hrange, rfl⟩ := List.getElem?_eq_some_iff.mp hlink
  by_cases h : number = session
  · subst h
    simp [media, setLink, hrange]
  · simp [media, setLink, h]

theorem terms_setLink {scene : Scene} {number : Nat} {link link' : Link}
    (hlink : scene.links[number]? = some link)
    (hterms : link'.terms = link.terms) :
    (scene.setLink number link').terms = scene.terms := by
  obtain ⟨hrange, rfl⟩ := List.getElem?_eq_some_iff.mp hlink
  apply List.ext_getElem?
  intro session
  by_cases h : number = session
  · subst h
    simp [terms, setLink, hrange, hterms]
  · simp [terms, setLink, h]

end Scene

namespace PacketSink

/-- A write puts the packet on the track of the sink, or nothing anywhere. -/
theorem write_spec {packet : Packet} {sink sink' : PacketSink}
    {scene scene' : Scene} {result : Except Fault Unit}
    (h : write packet (sink, scene) = some (result, sink', scene')) :
    sink'.track? = sink.track? ∧ scene'.terms = scene.terms ∧
      ∃ packets, packets.Sublist [packet] ∧ ∀ session,
        scene'.media session =
          scene.media session ++ sink.output session packets := by
  cases sink with
  | track owner payloadType =>
      simp only [write, Scene.onLink] at h
      split at h
      · cases h
        exact ⟨rfl, rfl, [], List.nil_sublist _, by simp⟩
      · rename_i link hlink
        split at h
        · rename_i link' hwrite
          cases h
          obtain rfl := Link.eq_of_writePacket hwrite
          refine ⟨rfl, Scene.terms_setLink hlink rfl, [packet],
            List.Sublist.refl _, fun session => ?_⟩
          rw [Scene.media_setLink_write _ hlink]
          simp [output]
        · cases h
        · cases h
          exact ⟨rfl, rfl, [], List.nil_sublist _, by simp⟩
  | log name items =>
      cases h
      exact ⟨rfl, rfl, [], List.nil_sublist _, by simp⟩

/-- Closing a sink is not seen on any track. -/
theorem close_spec (sink : PacketSink) (scene : Scene) :
    (close (sink, scene)).1.track? = sink.track? ∧
      (close (sink, scene)).2.terms = scene.terms ∧
      (close (sink, scene)).2.media = scene.media := by
  cases sink with
  | track owner payloadType =>
      exact ⟨rfl, Scene.terms_dropTrack scene owner,
        Scene.media_dropTrack scene owner⟩
  | log name items => exact ⟨rfl, rfl, rfl⟩

end PacketSink

namespace Outlet

theorem windDown_spec (outlet : Outlet PacketSink Packet) (scene : Scene) :
    (outlet.windDown scene).1.sink.track? = outlet.sink.track? ∧
      (outlet.windDown scene).1.waiting = outlet.queue.items ∧
      (outlet.windDown scene).2.terms = scene.terms ∧
      (outlet.windDown scene).2.media = scene.media := by
  obtain ⟨htrack, hterms, hmedia⟩ := outlet.sink.close_spec scene
  exact ⟨htrack, rfl, hterms, hmedia⟩

/-- What a worker does after a write leaves the tracks and what is queued
alone. -/
theorem written_spec (outlet : Outlet PacketSink Packet)
    (result : Except Fault Unit) (scene : Scene) :
    (outlet.written result scene).1.sink.track? = outlet.sink.track? ∧
      (outlet.written result scene).1.waiting = outlet.queue.items ∧
      (outlet.written result scene).2.terms = scene.terms ∧
      (outlet.written result scene).2.media = scene.media := by
  unfold written
  split
  · exact ⟨rfl, rfl, rfl, rfl⟩
  · exact outlet.close.windDown_spec scene
  · exact ⟨rfl, rfl, rfl, rfl⟩

/-- A step of a worker takes packets from the front of what the outlet has yet
to write, and all that is new on a track is these packets. -/
theorem work?_spec {outlet outlet' : Outlet PacketSink Packet}
    {scene scene' : Scene} (h : outlet.work? scene = some (outlet', scene')) :
    outlet'.sink.track? = outlet.sink.track? ∧ scene'.terms = scene.terms ∧
      ∃ packets, (packets ++ outlet'.waiting).Sublist outlet.waiting ∧
        ∀ session, scene'.media session =
          scene.media session ++ outlet.sink.output session packets := by
  unfold work? at h
  split at h
  · cases h
  · rename_i hidle
    have hwaiting : outlet.waiting = outlet.queue.items := by
      simp [waiting, inHand, hidle]
    split at h
    · rename_i queue item hreceive
      cases h
      refine ⟨rfl, rfl, [], ?_, by simp⟩
      rw [hwaiting, Queue.eq_cons_of_receive hreceive]
      exact List.Sublist.refl _
    · split at h
      · cases h
      · obtain ⟨htrack, hqueue, hterms, hmedia⟩ := outlet.windDown_spec scene
        rw [Option.some.inj h] at htrack hqueue hterms hmedia
        refine ⟨htrack, hterms, [], ?_, by simp [hmedia]⟩
        rw [hwaiting, List.nil_append, hqueue]
  · rename_i packet hphase
    have hwaiting : outlet.waiting = [packet] ++ outlet.queue.items := by
      simp [waiting, inHand, hphase]
    obtain ⟨⟨result, sink, scene₁⟩, hwrite, hwritten⟩ :=
      Option.bind_eq_some_iff.mp h
    obtain ⟨htrack, hterms, packets, hpackets, hmedia⟩ :=
      PacketSink.write_spec hwrite
    obtain ⟨htrack₁, hqueue, hterms₁, hmedia₁⟩ :=
      written_spec { outlet with sink } result scene₁
    rw [Option.some.inj hwritten] at htrack₁ hqueue hterms₁ hmedia₁
    refine ⟨htrack₁.trans htrack, hterms₁.trans hterms, packets, ?_, ?_⟩
    · rw [hwaiting, hqueue]
      exact hpackets.append_right outlet.queue.items
    · intro session
      rw [hmedia₁, hmedia]

end Outlet

end LanRelay
