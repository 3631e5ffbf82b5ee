/-
The order of packets on the way to the outlets.

Two things hold however the steps on the path are mixed. What was dispatched,
what the loop and the queue of the source hold, and what the reader offers, are
packets of the datagrams in the order in which these came in. A pass of the
loop has each outlet before it once.

Main statements: `SourceOrder.step` and `PassOrder.step`, by which each of the
two is kept by every step.
-/
import LanRelay.Proofs.Flow.Registry
import LanRelay.Proofs.Media.Path

namespace LanRelay

open Rtp (Packet)

namespace MediaPath

variable {path path' : MediaPath}

/-! The source. -/

/-- The packet in the offer of the reader. -/
def arriving (path : MediaPath) : List Packet :=
  match path.reader with
  | .offering stage => stage.inFlight
  | .reading | .stopped => []

/-- The packets that an outlet was or may still be offered. -/
def sourced (path : MediaPath) : List Packet :=
  path.dispatched ++ path.taken.toList ++ path.fanout.source.items ++
    path.arriving

def SourceOrder (path : MediaPath) : Prop :=
  path.sourced.Sublist (path.received.filterMap (accepted path.ssrc))

theorem filterMap_accepted_singleton (ssrc : UInt32) (datagram : Bytes) :
    [datagram].filterMap (accepted ssrc) =
      (accepted ssrc datagram).toList := by
  cases h : accepted ssrc datagram <;> simp [h]

theorem arriving_read (path : MediaPath) (datagram : Bytes) :
    (path.read datagram).arriving =
      (accepted path.ssrc datagram).toList := by
  unfold arriving read
  cases accepted path.ssrc datagram <;> rfl

theorem arriving_resume (path : MediaPath) (outcome : Offer) :
    (path.resume outcome).arriving = [] := by
  unfold arriving resume
  cases outcome <;> rfl

theorem SourceOrder.step (h : SourceOrder path) (hstep : Step path path') :
    SourceOrder path' := by
  unfold SourceOrder sourced at h ⊢
  cases hstep with
  | read datagram hreader =>
      have hidle : path.arriving = [] := by rw [arriving, hreader]
      rw [hidle, List.append_nil] at h
      rw [arriving_read, ← filterMap_accepted_singleton]
      change List.Sublist _ ((path.received ++ [datagram]).filterMap _)
      rw [List.filterMap_append]
      exact h.append_right _
  | enqueue stage hreader =>
      have hoffered : path.arriving = stage.inFlight := by
        rw [arriving, hreader]
      rw [hoffered, List.append_assoc] at h
      rw [List.append_assoc]
      have hqueue := stage.step_sublist path.policy path.fanout.source
      exact (hqueue.append_left _).trans h
  | resume outcome hreader =>
      have hoffered : path.arriving = [] := by
        rw [arriving, hreader]
        rfl
      rw [hoffered] at h
      rwa [arriving_resume]
  | stopReading hreader =>
      have hidle : path.arriving = [] := by rw [arriving, hreader]
      rwa [hidle] at h
  | take packet source hloop htaken hreceive =>
      rw [htaken, Queue.eq_cons_of_receive hreceive] at h
      simpa [arriving, withSource] using h
  | dispatch packet hloop htaken =>
      rw [htaken] at h
      simpa [arriving, MediaPath.dispatch] using h
  | account packet id number pending outcome hloop hoffer =>
      simpa [arriving, MediaPath.account] using h
  | work number fanout scene hwork =>
      obtain ⟨outlet, outlet', houtlet, hwork, rfl⟩ := Fanout.eq_of_work? hwork
      exact h
  | _ => exact h

/-! The passes of the loop. -/

/-- The numbers of the outlets that a pass of the loop has before it. -/
def ahead (path : MediaPath) : List Nat :=
  match path.fanout.loop with
  | some (.offering _ pending) | some (.evicting _ _ pending) =>
      pending.map Prod.snd
  | none | some .waiting | some .ended => []

/-- A pass has each outlet before it once, and the loop is in an offer only
while an outlet is before it. -/
structure PassOrder (path : MediaPath) : Prop where
  registry : path.fanout.registry.Numbered
  nodup : path.ahead.Nodup
  range : ∀ number ∈ path.ahead,
    number < path.fanout.registry.outlets.length
  idle : path.offer = none ∨ ∃ packet entry pending,
    path.fanout.loop = some (.offering packet (entry :: pending))

namespace PassOrder

/-- A pass stays in order while the loop does nothing and no outlet is lost. -/
theorem of_registry (h : PassOrder path)
    {registry : Registry PacketSink Packet} (hregistry : registry.Numbered)
    (hlength : path.fanout.registry.outlets.length ≤ registry.outlets.length) :
    PassOrder (path.withRegistry registry) where
  registry := hregistry
  nodup := h.nodup
  range number hnumber := Nat.lt_of_lt_of_le (h.range number hnumber) hlength
  idle := h.idle

/-- A pass stays in order while no outlet comes to stand before it. -/
theorem of_sublist (h : PassOrder path)
    (hregistry : path'.fanout.registry.Numbered)
    (hlength : path.fanout.registry.outlets.length ≤
      path'.fanout.registry.outlets.length)
    (hahead : path'.ahead.Sublist path.ahead) (hoffer : path'.offer = none) :
    PassOrder path' where
  registry := hregistry
  nodup := h.nodup.sublist hahead
  range number hnumber :=
    Nat.lt_of_lt_of_le (h.range number (hahead.subset hnumber)) hlength
  idle := Or.inl hoffer

theorem offer_eq_none (h : PassOrder path)
    (hloop : ∀ packet entry pending,
      path.fanout.loop ≠ some (.offering packet (entry :: pending))) :
    path.offer = none := by
  refine h.idle.resolve_right ?_
  rintro ⟨packet, entry, pending, heq⟩
  exact hloop packet entry pending heq

theorem register (h : PassOrder path) (id : SessionId)
    (outlet : Outlet PacketSink Packet) : PassOrder (path.register id outlet) :=
  h.of_registry (h.registry.register id outlet)
    (path.fanout.registry.length_register_le id outlet)

theorem registerTrack (h : PassOrder path) (id : SessionId) (session : Nat)
    (outlet : Outlet PacketSink Packet) :
    PassOrder (path.registerTrack id session outlet) := by
  obtain ⟨hregistry, hnodup, hrange, hidle⟩ := h.register id outlet
  exact ⟨hregistry, hnodup, hrange, hidle⟩

theorem ahead_account (path : MediaPath) (outcome : Offer) (id : SessionId)
    (number : Nat) (packet : Packet) (pending : List (SessionId × Nat)) :
    (path.account outcome id number packet pending).ahead =
      pending.map Prod.snd := by
  unfold ahead account
  rcases Fanout.judge_loop _ outcome id number packet pending with
    hloop | hloop <;> rw [hloop]

theorem step (h : PassOrder path) (hstep : Step path path') :
    PassOrder path' := by
  cases hstep with
  | start hloop =>
      exact h.of_sublist h.registry (Nat.le_refl _) (List.nil_sublist _)
        (h.offer_eq_none fun _ _ _ heq => by simp [hloop] at heq)
  | dispatch packet hloop htaken =>
      exact ⟨h.registry, h.registry.nodup, h.registry.range,
        Or.inl (h.offer_eq_none fun _ _ _ heq => by simp [hloop] at heq)⟩
  | reorder packet pending pending' hloop hoffer hperm =>
      have hahead : path.ahead = pending.map Prod.snd := by
        rw [ahead, hloop]
      have hnumbers := hperm.map Prod.snd
      rw [← hahead] at hnumbers
      exact ⟨h.registry, hnumbers.nodup_iff.mpr h.nodup,
        fun number hnumber => h.range number (hnumbers.subset hnumber),
        Or.inl hoffer⟩
  | beginOffer packet entry pending hloop hoffer =>
      exact ⟨h.registry, h.nodup, h.range,
        Or.inr ⟨packet, entry, pending, hloop⟩⟩
  | offer packet id number pending outlet stage hloop houtlet hoffer =>
      refine ⟨h.registry.of_outlets (List.length_set ..), h.nodup, ?_,
        Or.inr ⟨packet, (id, number), pending, hloop⟩⟩
      intro other hother
      have hrange := h.range other hother
      simpa [offerTo, inOffer, withRegistry] using hrange
  | account packet id number pending outcome hloop hoffer =>
      have hregistry : (path.account outcome id number packet
          pending).fanout.registry.Numbered := by
        simpa [MediaPath.account] using h.registry.adjust number _
      refine h.of_sublist hregistry (by simp [MediaPath.account]) ?_ rfl
      rw [ahead_account, ahead, hloop]
      exact List.sublist_cons_self _ _
  | evict packet id pending hloop =>
      refine h.of_sublist (h.registry.unregister id) ?_ ?_
        (h.offer_eq_none fun _ _ _ heq => by simp [hloop] at heq)
      · exact Nat.le_of_eq (path.fanout.registry.length_unregister id).symm
      · rw [ahead, ahead, hloop]
        exact List.Sublist.refl _
  | endPass packet hloop =>
      exact h.of_sublist h.registry (Nat.le_refl _) (List.nil_sublist _)
        (h.offer_eq_none fun _ _ _ heq => by simp [hloop] at heq)
  | stop hloop htaken =>
      exact h.of_sublist h.registry (Nat.le_refl _) (List.nil_sublist _)
        (h.offer_eq_none fun _ _ _ heq => by simp [hloop] at heq)
  | work number fanout scene hwork =>
      obtain ⟨outlet, outlet', houtlet, hwork, rfl⟩ := Fanout.eq_of_work? hwork
      have hlength : path.fanout.registry.outlets.length =
          (path.fanout.registry.outlets.set number outlet').length := by simp
      exact ⟨h.registry.of_outlets hlength.symm, h.nodup,
        fun other hother => hlength ▸ h.range other hother, h.idle⟩
  | registerTrack id name capacity policy session link hlink hnew =>
      exact h.registerTrack id session _
  | registerLog id name capacity policy items =>
      exact h.register id _
  | erase id => exact h.of_registry (h.registry.erase id) (Nat.le_refl _)
  | clear => exact h.of_registry (.clear _) (Nat.le_refl _)
  | closeOutlet number =>
      exact h.of_registry (h.registry.adjust number _)
        (Nat.le_of_eq (path.fanout.registry.length_adjust number _).symm)
  | _ => exact ⟨h.registry, h.nodup, h.range, h.idle⟩

end PassOrder

end MediaPath

end LanRelay
