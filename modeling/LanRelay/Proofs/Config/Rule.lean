/-
Which configurations keep the rules.

Main statement: `Blueprint.validate_eq_ok_iff`. The rules are those that a relay
relies on when it is set up, and one more, on the buffer of the media socket.
-/
import LanRelay.Config.Rule

namespace LanRelay

/-- A text with a visible character. -/
def Text.IsVisible (text : String) : Prop :=
  ∃ c ∈ text.toList, isBlank c = false

theorem Text.isBlankText_eq_false_iff {text : String} :
    isBlankText text = false ↔ IsVisible text := by
  rw [isBlankText, List.all_eq_false]
  exact exists_congr fun c => and_congr_right fun _ => by simp

/-- A group is in 224.0.0.0/4. -/
theorem Ipv4.isMulticast_iff {ip : Ipv4} :
    ip.isMulticast = true ↔ 224 ≤ ip.a.toNat ∧ ip.a.toNat ≤ 239 := by
  rw [isMulticast, Bool.and_eq_true, decide_eq_true_iff, decide_eq_true_iff]
  exact Iff.rfl

namespace Blueprint

/-- What a relay relies on when it is set up: a group that can be joined, a
timer that goes off before peers are forgotten, names, a sensible bound of
frames, and room in every queue. -/
structure IsWorkable (blueprint : Blueprint) : Prop where
  group : 224 ≤ blueprint.bus.group.ip.a.toNat ∧
    blueprint.bus.group.ip.a.toNat ≤ 239
  interval : 0 < blueprint.bus.announceIntervalMs.toNat
  ttl : blueprint.bus.announceIntervalMs.toNat < blueprint.bus.peerTtlMs.toNat
  service : Text.IsVisible blueprint.bus.service
  codec : Text.IsVisible blueprint.session.codec
  frameBytes : 64 ≤ blueprint.session.frameBytes.toNat ∧
    blueprint.session.frameBytes.toNat ≤ 65507
  deliveryRoom : 0 < blueprint.bus.deliveryCapacity.toNat
  packetRoom : 0 < blueprint.rtp.queueCapacity.toNat
  rtpSinkRoom : 0 < blueprint.sinks.rtpCapacity.toNat
  eventSinkRoom : 0 < blueprint.sinks.eventCapacity.toNat

variable {blueprint : Blueprint}

/-- A check finds nothing when it does not apply and the later ones find
nothing. -/
theorem ite_some_eq_none_iff {p : Prop} [Decidable p] {breach : RuleBreach}
    {later : Option RuleBreach} :
    (if p then some breach else later) = none ↔ ¬ p ∧ later = none := by
  by_cases hp : p <;> simp [hp]

theorem find?_capacities_eq_none_iff :
    blueprint.capacities.find? (·.2 = 0) = none ↔
      0 < blueprint.bus.deliveryCapacity.toNat ∧
      0 < blueprint.rtp.queueCapacity.toNat ∧
      0 < blueprint.rtp.readBufferBytes.toNat ∧
      0 < blueprint.sinks.rtpCapacity.toNat ∧
      0 < blueprint.sinks.eventCapacity.toNat := by
  have hroom (capacity : UInt64) : ¬ capacity = 0 ↔ 0 < capacity.toNat := by
    rw [← UInt64.toNat_inj, Nat.pos_iff_ne_zero]
    rfl
  simp [List.find?_eq_none, capacities, hroom]

/-- The checks, in the order in which they are made. -/
theorem breach?_eq_none_iff : blueprint.breach? = none ↔
    blueprint.bus.group.ip.isMulticast = true ∧
    ¬ blueprint.bus.announceIntervalMs = 0 ∧
    ¬ blueprint.bus.peerTtlMs ≤ blueprint.bus.announceIntervalMs ∧
    Text.isBlankText blueprint.bus.service = false ∧
    blueprint.capacities.find? (·.2 = 0) = none ∧
    Text.isBlankText blueprint.session.codec = false ∧
    ¬ (blueprint.session.frameBytes < minFrameBytes ∨
      maxFrameBytes < blueprint.session.frameBytes) := by
  rw [breach?, ite_some_eq_none_iff, ite_some_eq_none_iff,
    ite_some_eq_none_iff, ite_some_eq_none_iff, Bool.not_eq_true',
    Bool.not_eq_false, Bool.not_eq_true]
  refine and_congr_right fun _ => and_congr_right fun _ =>
    and_congr_right fun _ => and_congr_right fun _ => ?_
  cases blueprint.capacities.find? (·.2 = 0) with
  | some found => simp
  | none =>
      dsimp only
      rw [ite_some_eq_none_iff, ite_some_eq_none_iff, Bool.not_eq_true]
      simp

theorem validate_eq_ok_iff : blueprint.validate = .ok () ↔
    blueprint.IsWorkable ∧ 0 < blueprint.rtp.readBufferBytes.toNat := by
  have hvalidate : blueprint.validate = .ok () ↔
      blueprint.breach? = none := by
    rw [validate]
    cases blueprint.breach? <;> simp
  have hinterval : ¬ blueprint.bus.announceIntervalMs = 0 ↔
      0 < blueprint.bus.announceIntervalMs.toNat := by
    rw [← UInt64.toNat_inj, Nat.pos_iff_ne_zero]
    rfl
  have httl : ¬ blueprint.bus.peerTtlMs ≤ blueprint.bus.announceIntervalMs ↔
      blueprint.bus.announceIntervalMs.toNat <
        blueprint.bus.peerTtlMs.toNat := by
    rw [UInt64.le_iff_toNat_le, Nat.not_le]
  have hframe : ¬ (blueprint.session.frameBytes < minFrameBytes ∨
      maxFrameBytes < blueprint.session.frameBytes) ↔
      64 ≤ blueprint.session.frameBytes.toNat ∧
        blueprint.session.frameBytes.toNat ≤ 65507 := by
    rw [not_or, UInt64.lt_iff_toNat_lt, UInt64.lt_iff_toNat_lt, Nat.not_lt,
      Nat.not_lt]
    rfl
  rw [hvalidate, breach?_eq_none_iff, Ipv4.isMulticast_iff, hinterval, httl,
    Text.isBlankText_eq_false_iff, Text.isBlankText_eq_false_iff,
    find?_capacities_eq_none_iff, hframe]
  constructor
  · rintro ⟨group, interval, ttl, service,
      ⟨delivery, packet, read, rtpSink, eventSink⟩, codec, frame⟩
    exact ⟨⟨group, interval, ttl, service, codec, frame, delivery, packet,
      rtpSink, eventSink⟩, read⟩
  · rintro ⟨h, read⟩
    exact ⟨h.group, h.interval, h.ttl, h.service, ⟨h.deliveryRoom,
      h.packetRoom, read, h.rtpSinkRoom, h.eventSinkRoom⟩, h.codec,
      h.frameBytes⟩

end Blueprint

end LanRelay
