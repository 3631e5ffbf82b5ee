/-
The integrity of the media stream from end to end.

Whatever the steps on the path and their order, the packets on the track of a
session are those of some of the datagrams that came in, in the order in which
they came in and each at most once. They are as they were read but for the
stream identifier and the payload type, and none was dispatched before the
outlet for the track was registered.

Main statement: `written_of_reachable`.
-/
import LanRelay.Proofs.Media.Tracks
import Mathlib.Data.List.Forall2

namespace LanRelay

open Rtp (Packet)

namespace MediaPath

variable {path : MediaPath}

structure InOrder (path : MediaPath) : Prop where
  source : SourceOrder path
  passes : PassOrder path
  tracks : TrackOrder path

theorem inOrder_initial (ssrc : UInt32) (policy : DropPolicy)
    (capacity limit : Nat) : InOrder (initial ssrc policy capacity limit) where
  source := List.Sublist.refl _
  passes := {
    registry := .clear { stream := .rtp }
    nodup := List.nodup_nil
    range := fun _ hnumber => absurd hnumber List.not_mem_nil
    idle := Or.inl rfl }
  tracks := {
    owner := fun h => absurd h (by simp [tracks, initial])
    order := fun h => absurd h (by simp [tracks, initial])
    untouched := fun _ => ⟨rfl, rfl⟩ }

theorem InOrder.step {path' : MediaPath} (h : InOrder path)
    (hstep : Step path path') : InOrder path' where
  source := h.source.step hstep
  passes := h.passes.step hstep
  tracks := h.tracks.step h.passes hstep

theorem Reachable.inOrder (h : Reachable path) : InOrder path := by
  induction h with
  | initial ssrc policy capacity limit =>
      exact inOrder_initial ssrc policy capacity limit
  | step _ hstep ih => exact ih.step hstep

/-! When the outlet of a track was registered. -/

/-- An outlet for the track of a session was registered in one path, and
another came of that. -/
def RegisteredIn (before : MediaPath) (session : Nat) (path : MediaPath) :
    Prop :=
  Reachable before ∧ ∃ id outlet,
    Step before (before.registerTrack id session outlet) ∧
      Reaches (before.registerTrack id session outlet) path

theorem dispatched_prefix_of_step {path' : MediaPath}
    (h : Step path path') : path.dispatched <+: path'.dispatched := by
  cases h with
  | dispatch packet hloop htaken => exact List.prefix_append _ _
  | _ => exact List.prefix_refl _

/-- A registration is noted when it happens and is then kept. -/
theorem since_of_step {path' : MediaPath} {session count : Nat}
    (hstep : Step path path') (h : path'.since session = some count) :
    path.since session = some count ∨ count = path.dispatched.length ∧
      ∃ id outlet, path' = path.registerTrack id session outlet := by
  cases hstep with
  | registerTrack id name capacity policy owner link hlink hnew =>
      by_cases hsession : session = owner
      · subst hsession
        rw [MediaPath.registerTrack] at h
        simp only [↓reduceIte] at h
        exact Or.inr ⟨(Option.some.inj h).symm, id, _, rfl⟩
      · exact Or.inl ((if_neg hsession).symm.trans h)
  | _ => exact Or.inl h

theorem Reachable.registeredIn {session count : Nat} (h : Reachable path)
    (hsince : path.since session = some count) :
    ∃ before later, RegisteredIn before session path ∧
      before.dispatched.length = count ∧
      path.dispatched = before.dispatched ++ later := by
  induction h with
  | initial ssrc policy capacity limit => cases hsince
  | @step path path' hpath hstep ih =>
      obtain ⟨rest, hrest⟩ := dispatched_prefix_of_step hstep
      rcases since_of_step hstep hsince with hold | ⟨rfl, id, outlet, rfl⟩
      · obtain ⟨before, later, ⟨hbefore, id, outlet, hregister, hrun⟩, hcount,
          hlater⟩ := ih hold
        refine ⟨before, later ++ rest,
          ⟨hbefore, id, outlet, hregister, hrun.tail hstep⟩, hcount, ?_⟩
        rw [← hrest, hlater, List.append_assoc]
      · exact ⟨path, [],
          ⟨hpath, id, outlet, hstep, Relation.ReflTransGen.refl⟩, rfl,
          (List.append_nil _).symm⟩

/-! From what was dispatched back to the datagrams. -/

theorem exists_sublist_of_filterMap {α β : Type} {f : α → Option β}
    {items : List α} {found : List β} (h : found.Sublist (items.filterMap f)) :
    ∃ picked, picked.Sublist items ∧
      List.Forall₂ (fun item image => f item = some image) picked found := by
  induction items generalizing found with
  | nil =>
      obtain rfl := List.sublist_nil.mp h
      exact ⟨[], List.Sublist.refl _, .nil⟩
  | cons item items ih =>
      cases hitem : f item with
      | none =>
          rw [List.filterMap_cons_none hitem] at h
          obtain ⟨picked, hpicked, hfound⟩ := ih h
          exact ⟨picked, hpicked.cons item, hfound⟩
      | some image =>
          rw [List.filterMap_cons_some hitem] at h
          rcases List.sublist_cons_iff.mp h with hrest | ⟨rest, rfl, hrest⟩
          · obtain ⟨picked, hpicked, hfound⟩ := ih hrest
            exact ⟨picked, hpicked.cons item, hfound⟩
          · obtain ⟨picked, hpicked, hfound⟩ := ih hrest
            exact ⟨item :: picked, hpicked.cons_cons item, .cons hitem hfound⟩

theorem accepted_eq_some_iff {ssrc : UInt32} {datagram : Bytes}
    {packet : Packet} : accepted ssrc datagram = some packet ↔
      ∃ parsed, Packet.parse (datagram.take Rtp.maxPacket) = .ok parsed ∧
        packet = parsed.withSsrc ssrc := by
  unfold accepted
  split <;> rename_i hparse <;> simp [hparse, eq_comm]

/-- Accepted packets are those of some of the datagrams, with another stream
identifier. -/
theorem exists_parsed_of_sublist {ssrc : UInt32} {received : List Bytes}
    {sent : List Packet}
    (h : sent.Sublist (received.filterMap (accepted ssrc))) :
    ∃ datagrams packets, datagrams.Sublist received ∧
      List.Forall₂ (fun datagram packet =>
        Packet.parse (datagram.take Rtp.maxPacket) = .ok packet)
          datagrams packets ∧
      sent = packets.map (·.withSsrc ssrc) := by
  obtain ⟨datagrams, hdatagrams, haccepted⟩ := exists_sublist_of_filterMap h
  refine ⟨datagrams, ?_⟩
  suffices hparsed : ∃ packets, List.Forall₂ (fun datagram packet =>
      Packet.parse (datagram.take Rtp.maxPacket) = .ok packet)
        datagrams packets ∧ sent = packets.map (·.withSsrc ssrc) by
    obtain ⟨packets, hparsed⟩ := hparsed
    exact ⟨packets, hdatagrams, hparsed⟩
  clear h hdatagrams
  induction haccepted with
  | nil => exact ⟨[], .nil, rfl⟩
  | cons haccepted _ ih =>
      obtain ⟨first, hfirst, rfl⟩ := accepted_eq_some_iff.mp haccepted
      obtain ⟨rest, hrest, rfl⟩ := ih
      exact ⟨first :: rest, .cons hfirst hrest, rfl⟩

/-- The datagrams part where the packets dispatched by some time end. -/
theorem SourceOrder.split {early late : List Packet} (h : SourceOrder path)
    (hdispatched : path.dispatched = early ++ late) :
    ∃ earlyData lateData, path.received = earlyData ++ lateData ∧
      early.Sublist (earlyData.filterMap (accepted path.ssrc)) ∧
      late.Sublist (lateData.filterMap (accepted path.ssrc)) := by
  rw [SourceOrder, sourced, hdispatched, List.append_assoc, List.append_assoc,
    List.append_assoc, List.append_sublist_iff] at h
  obtain ⟨first, second, hsplit, hearly, hlate⟩ := h
  obtain ⟨earlyData, lateData, hreceived, rfl, rfl⟩ :=
    List.filterMap_eq_append_iff.mp hsplit
  exact ⟨earlyData, lateData, hreceived, hearly,
    (List.sublist_append_left _ _).trans hlate⟩

/-- What was written to a track was dispatched after its outlet was registered,
under the payload type that was negotiated. -/
theorem exists_sent_of_reachable (h : Reachable path) (session : Nat) :
    path.written session = [] ∨
      ∃ (before : MediaPath) (link : Link) (later sent : List Packet),
        RegisteredIn before session path ∧
        path.scene.links[session]? = some link ∧
        path.dispatched = before.dispatched ++ later ∧ sent.Sublist later ∧
        path.written session =
          sent.map ({ · with payloadType := link.terms.payloadType }) := by
  by_cases hnone : ∀ payloadType, some (session, payloadType) ∉ path.tracks
  · exact Or.inl (h.inOrder.tracks.untouched hnone).2
  · right
    simp only [not_forall, not_not] at hnone
    obtain ⟨payloadType, hmem⟩ := hnone
    obtain ⟨number, hnumber⟩ := List.mem_iff_getElem?.mp hmem
    obtain ⟨count, terms, sent, hsince, -, hterms, rfl, hwritten, hsent⟩ :=
      h.inOrder.tracks.order hnumber
    obtain ⟨before, later, hregistered, rfl, hlater⟩ := h.registeredIn hsince
    obtain ⟨link, hlink, rfl⟩ : ∃ link, path.scene.links[session]? = some link ∧
        link.terms = terms := by
      simpa [Scene.terms] using hterms
    rw [hlater, List.drop_left] at hsent
    exact ⟨before, link, later, sent, hregistered, hlink, hlater,
      (List.sublist_append_left _ _).trans hsent, hwritten⟩

/-- The packets on the track of a session are those of some of the datagrams, in
the order of arrival and each at most once, but for the stream identifier and
the payload type. They and the datagrams come after those that had been
dispatched when the outlet of the track was registered. -/
theorem written_of_reachable (h : Reachable path) (session : Nat) :
    path.written session = [] ∨
      ∃ (before : MediaPath) (link : Link) (later packets : List Packet)
          (earlyData lateData datagrams : List Bytes),
        RegisteredIn before session path ∧
        path.scene.links[session]? = some link ∧
        path.dispatched = before.dispatched ++ later ∧
        path.received = earlyData ++ lateData ∧
        before.dispatched.Sublist
          (earlyData.filterMap (accepted path.ssrc)) ∧
        datagrams.Sublist lateData ∧
        List.Forall₂ (fun datagram packet =>
          Packet.parse (datagram.take Rtp.maxPacket) = .ok packet)
            datagrams packets ∧
        (packets.map (·.withSsrc path.ssrc)).Sublist later ∧
        path.written session = packets.map fun packet =>
          { packet with
            ssrc := path.ssrc
            payloadType := link.terms.payloadType } := by
  refine (exists_sent_of_reachable h session).imp_right ?_
  rintro ⟨before, link, later, sent, hregistered, hlink, hlater, hsent,
    hwritten⟩
  obtain ⟨earlyData, lateData, hreceived, hearly, hlate⟩ :=
    h.inOrder.source.split hlater
  obtain ⟨datagrams, packets, hdatagrams, hparsed, rfl⟩ :=
    exists_parsed_of_sublist (hsent.trans hlate)
  refine ⟨before, link, later, packets, earlyData, lateData, datagrams,
    hregistered, hlink, hlater, hreceived, hearly, hdatagrams, hparsed, hsent,
    ?_⟩
  rw [hwritten, List.map_map]
  rfl

/-! A run in which a packet gets through. -/

def sampleDatagram : Bytes :=
  [0x80, 0x60, 0, 1, 0, 0, 0, 2, 0, 0, 0, 3, 0xff]

/-- The datagram as it is queued. -/
def samplePacket : Packet where
  marker := false
  payloadType := 96
  sequence := 1
  timestamp := 2
  ssrc := 7
  contributors := []
  ext := none
  payload := [0xff]

def sampleLink : Link where
  terms := {
    offer := { kind := .offer, sdp := "" }
    codec := "H264"
    payloadType := 102
    ssrc := 7 }

/-- The packet is written under the payload type of the session. -/
theorem written_of_sample_run :
    ∃ path, Reachable path ∧ path.received = [sampleDatagram] ∧
      path.written 0 = [{ samplePacket with payloadType := 102 }] ∧
      ∃ before, RegisteredIn before 0 path := by
  have hregistered :=
    ((Reachable.initial 7 .dropOldest 1 0).step
      (.others { links := [sampleLink] } List.nil_prefix)).step
      (.registerTrack "a" "a/rtp" 1 .dropNewest 0 sampleLink rfl
        (fun _ hmem => absurd hmem List.not_mem_nil))
  have hqueued :=
    ((hregistered.step (.start rfl)).step (.read sampleDatagram rfl)).step
      (.enqueue (.start samplePacket) rfl)
  have hoffered :=
    (((hqueued.step (.take samplePacket { capacity := 1 } rfl rfl rfl)).step
      (.dispatch samplePacket rfl rfl)).step
      (.beginOffer samplePacket ("a", 0) [] rfl rfl)).step
      (.offer samplePacket "a" 0 [] _ (.start samplePacket) rfl rfl rfl)
  have hwritten :=
    (hoffered.step (.work 0 _ _ rfl)).step (.work 0 _ _ rfl)
  refine ⟨_, hwritten, rfl, rfl, ?_⟩
  rcases written_of_reachable hwritten 0 with
    hnone | ⟨before, _, _, _, _, _, _, hbefore, _⟩
  · cases hnone
  · exact ⟨before, hbefore⟩

end MediaPath

end LanRelay
