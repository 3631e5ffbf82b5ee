/-
Sweeps do not change who is a target.

An entry that has gone stale stays so: its age grows with the time, and what
has no age never gets one. A sweep removes the stale entries, and the targets
are chosen among the others. So it makes no difference to the targets whether
and how often stale entries were removed before.

Main statement: `sweeps_leave_targets_alone`.
-/
import LanRelay.Proofs.Bus.Staleness
import LanRelay.Proofs.Bus.Steadiness
import LanRelay.Proofs.Time.Stamps

namespace LanRelay

/-! Stale entries. -/

/-- Why an entry no longer counts. -/
inductive Announcement.Stale (entry : Announcement) (now : Instant)
    (ttl : Span) : Prop where
  /-- It was never stamped. -/
  | missing (hreceived : entry.receivedAt = none)
  /-- Its receive stamp stands for no moment. -/
  | invalid {ts : Timestamp} (hreceived : entry.receivedAt = some ts)
      (hinvalid : ¬ ts.Valid)
  /-- It was received more than the time to live ago. -/
  | old {ts : Timestamp} (hreceived : entry.receivedAt = some ts)
      (hvalid : ts.Valid)
      (hage : (ttl : Int) < now.nanos -
        (ts.seconds.toInt * nanosPerSecond + ts.nanos.toInt))

namespace Announcement

variable {entry : Announcement} {now now' : Instant} {ttl ttl' : Span}

theorem isLive_eq_false_iff :
    entry.isLive now ttl = false ↔ entry.Stale now ttl := by
  constructor
  · intro hlive
    unfold isLive at hlive
    split at hlive
    · exact .missing ‹_›
    · rename_i ts hreceived
      by_cases hvalid : ts.Valid
      · simp only [Timestamp.ageAt_of_valid hvalid, decide_eq_false_iff_not]
          at hlive
        unfold Span at hlive
        exact .old hreceived hvalid (by omega)
      · exact .invalid hreceived hvalid
  · intro hstale
    rw [isLive]
    cases hstale with
    | missing hreceived => rw [hreceived]
    | invalid hreceived hinvalid =>
        simp only [hreceived, Timestamp.ageAt_of_not_valid hinvalid]
    | old hreceived hvalid hage =>
        simp only [hreceived, Timestamp.ageAt_of_valid hvalid,
          decide_eq_false_iff_not]
        unfold Span
        omega

theorem isLive_iff_not_stale :
    entry.isLive now ttl = true ↔ ¬ entry.Stale now ttl := by
  rw [← isLive_eq_false_iff, Bool.not_eq_false]

/-- What is stale is so at any later time, and for any shorter time to live. -/
theorem Stale.mono (h : entry.Stale now ttl) (hnow : now.nanos ≤ now'.nanos)
    (httl : ttl' ≤ ttl) : entry.Stale now' ttl' := by
  cases h with
  | missing hreceived => exact .missing hreceived
  | invalid hreceived hinvalid => exact .invalid hreceived hinvalid
  | old hreceived hvalid hage =>
      unfold Span at httl
      exact .old hreceived hvalid (by omega)

end Announcement

/-! What a sweep removes and what it leaves. -/

namespace PeerTable

variable {table : PeerTable} {now now' : Instant} {ttl ttl' : Span}
  {source : Endpoint}

theorem nodup_staleKeys (table : PeerTable) (now : Instant) (ttl : Span) :
    (table.staleKeys now ttl).Nodup :=
  table.nodup.sublist (List.filter_sublist.map Prod.fst)

theorem mem_staleKeys_iff :
    source ∈ table.staleKeys now ttl ↔
      ∃ entry, table.get? source = some entry ∧ entry.Stale now ttl := by
  simp only [staleKeys, List.mem_map, List.mem_filter, Bool.not_eq_true',
    Announcement.isLive_eq_false_iff, Prod.exists]
  constructor
  · rintro ⟨_, entry, ⟨hentry, hstale⟩, rfl⟩
    exact ⟨entry, Keyed.mem_entries_iff.mp hentry, hstale⟩
  · rintro ⟨entry, hentry, hstale⟩
    exact ⟨source, entry, ⟨Keyed.mem_entries_iff.mpr hentry, hstale⟩, rfl⟩

theorem get?_sweep_iff_not_stale {entry : Announcement} :
    (table.sweep now ttl).get? source = some entry ↔
      table.get? source = some entry ∧ ¬ entry.Stale now ttl := by
  rw [get?_sweep, ← Announcement.isLive_iff, Announcement.isLive_iff_not_stale]

/-- A second sweep finds nothing to remove. -/
theorem staleKeys_sweep : (table.sweep now ttl).staleKeys now ttl = [] := by
  rw [List.eq_nil_iff_forall_not_mem]
  intro source hsource
  obtain ⟨entry, hentry, hstale⟩ := mem_staleKeys_iff.mp hsource
  exact (get?_sweep_iff_not_stale.mp hentry).2 hstale

theorem sweep_sweep :
    (table.sweep now ttl).sweep now ttl = table.sweep now ttl := by
  apply Keyed.ext
  simp only [sweep, Keyed.keepIf, List.filter_filter, Bool.and_self]

/-! Who is a target. -/

theorem mem_liveTargets_iff {target : DeliveryTarget} {address : Endpoint} :
    address ∈ table.liveTargets now ttl target ↔
      ∃ source entry, table.get? source = some entry ∧
        ¬ entry.Stale now ttl ∧
        entry.deliveryAddress? source target = some address := by
  constructor
  · intro haddress
    rw [liveTargets, Endpoint.mem_sortDistinct, List.mem_filterMap]
      at haddress
    obtain ⟨⟨source, entry⟩, hentry, htarget⟩ := haddress
    simp only [Option.ite_none_right_eq_some] at htarget
    obtain ⟨hlive, hdelivery⟩ := htarget
    exact ⟨source, entry, Keyed.mem_entries_iff.mp hentry,
      Announcement.isLive_iff_not_stale.mp hlive, hdelivery⟩
  · rintro ⟨source, entry, hentry, hfresh, hdelivery⟩
    have hlive := Announcement.isLive_iff_not_stale.mpr hfresh
    exact mem_liveTargets hentry hlive hdelivery

/-- A sweep removes none of those that are targets then or later. -/
theorem liveTargets_sweep (target : DeliveryTarget)
    (hnow : now.nanos ≤ now'.nanos) (httl : ttl' ≤ ttl) :
    (table.sweep now ttl).liveTargets now' ttl' target =
      table.liveTargets now' ttl' target := by
  have hlater (entry : Announcement) (hlive : entry.isLive now' ttl' = true) :
      entry.isLive now ttl = true := by
    rw [Announcement.isLive_iff_not_stale] at hlive ⊢
    intro hstale
    exact hlive (hstale.mono hnow httl)
  rw [liveTargets, sweep, Keyed.keepIf, List.filterMap_filter, liveTargets]
  congr 2
  funext peer
  obtain ⟨source, entry⟩ := peer
  by_cases hlive : entry.isLive now' ttl' = true
  · rw [if_pos (hlater entry hlive)]
  · simp only [if_neg hlive, ite_self]

/-- Sweep after sweep, each at its time and with its time to live. -/
def sweeps (table : PeerTable) : List (Instant × Span) → PeerTable
  | [] => table
  | (now, ttl) :: later => (table.sweep now ttl).sweeps later

theorem liveTargets_sweeps (target : DeliveryTarget)
    {earlier : List (Instant × Span)}
    (h : ∀ now ttl, (now, ttl) ∈ earlier →
      now.nanos ≤ now'.nanos ∧ ttl' ≤ ttl) :
    (table.sweeps earlier).liveTargets now' ttl' target =
      table.liveTargets now' ttl' target := by
  induction earlier generalizing table with
  | nil => rfl
  | cons first earlier ih =>
      obtain ⟨now, ttl⟩ := first
      obtain ⟨hnow, httl⟩ := h now ttl List.mem_cons_self
      have hrest : ((table.sweep now ttl).sweeps earlier).liveTargets now' ttl'
          target = (table.sweep now ttl).liveTargets now' ttl' target :=
        ih fun now ttl hmem => h now ttl (List.mem_cons_of_mem _ hmem)
      exact hrest.trans (liveTargets_sweep target hnow httl)

end PeerTable

/-- A sweep removes the stale entries, each once, and no others; the targets of
that time and of any later one are the same before and after it, and after any
number of such sweeps. A second sweep removes nothing. -/
theorem sweeps_leave_targets_alone (table : PeerTable) (now : Instant)
    (ttl : Span) :
    (table.staleKeys now ttl).Nodup ∧
    (∀ source, source ∈ table.staleKeys now ttl ↔
      ∃ entry, table.get? source = some entry ∧ entry.Stale now ttl) ∧
    (∀ source entry, (table.sweep now ttl).get? source = some entry ↔
      table.get? source = some entry ∧ source ∉ table.staleKeys now ttl) ∧
    (∀ now' ttl' target, now.nanos ≤ now'.nanos → ttl' ≤ ttl →
      (table.sweep now ttl).liveTargets now' ttl' target =
        table.liveTargets now' ttl' target) ∧
    (∀ earlier target, (∀ now' ttl', (now', ttl') ∈ earlier →
        now'.nanos ≤ now.nanos ∧ ttl ≤ ttl') →
      (table.sweeps earlier).liveTargets now ttl target =
        table.liveTargets now ttl target) ∧
    (∀ target address, address ∈ table.liveTargets now ttl target ↔
      ∃ source entry, (table.sweep now ttl).get? source = some entry ∧
        entry.deliveryAddress? source target = some address) ∧
    (table.sweep now ttl).staleKeys now ttl = [] ∧
    (table.sweep now ttl).sweep now ttl = table.sweep now ttl := by
  refine ⟨table.nodup_staleKeys now ttl, fun _ => PeerTable.mem_staleKeys_iff,
    ?_, ?_, ?_, ?_, PeerTable.staleKeys_sweep, PeerTable.sweep_sweep⟩
  · intro source entry
    rw [PeerTable.get?_sweep_iff_not_stale, PeerTable.mem_staleKeys_iff]
    apply and_congr_right
    intro hentry
    simp only [hentry, Option.some.injEq, exists_eq_left']
  · intro now' ttl' target hnow httl
    exact PeerTable.liveTargets_sweep target hnow httl
  · intro earlier target hearlier
    exact PeerTable.liveTargets_sweeps target hearlier
  · intro target address
    simp only [PeerTable.mem_liveTargets_iff,
      PeerTable.get?_sweep_iff_not_stale, and_assoc]

/-- The source of the presence of one of some peers. -/
def peerSource (last : UInt8) : Endpoint := .v4 ⟨⟨10, 0, 0, last⟩, 10000⟩

/-- The first peer was heard at zero, the second a nanosecond before that, and
the fifth is ahead of time. The stamp of the third is invalid, and the fourth
has none. -/
def fivePeers : PeerTable where
  entries := [
    (peerSource 1, visitorAnnouncement.stamped ⟨0, 0⟩),
    (peerSource 2, visitorAnnouncement.stamped ⟨-1, 999999999⟩),
    (peerSource 3, visitorAnnouncement.stamped ⟨0, -1⟩),
    (peerSource 4, visitorAnnouncement),
    (peerSource 5, visitorAnnouncement.stamped ⟨100, 0⟩)]
  nodup := by decide

/-- Ten seconds after zero, with ten seconds to live, the first peer is still
a target. A nanosecond later it is not, whether there was a sweep or two
before. -/
theorem sweeps_leave_targets_alone_of_fivePeers :
    fivePeers.staleKeys ⟨10000000000⟩ (.ofMillis 10000) =
        [peerSource 2, peerSource 3, peerSource 4] ∧
      fivePeers.liveTargets ⟨10000000000⟩ (.ofMillis 10000) .sourceHost =
        [.v4 ⟨⟨10, 0, 0, 1⟩, 5000⟩, .v4 ⟨⟨10, 0, 0, 5⟩, 5000⟩] ∧
      (fivePeers.sweep ⟨10000000000⟩ (.ofMillis 10000)).liveTargets
        ⟨10000000001⟩ (.ofMillis 10000) .sourceHost =
          [.v4 ⟨⟨10, 0, 0, 5⟩, 5000⟩] ∧
      (fivePeers.sweeps [(⟨10000000000⟩, .ofMillis 10000),
        (⟨9000000000⟩, .ofMillis 20000)]).liveTargets ⟨10000000001⟩
          (.ofMillis 10000) .sourceHost = [.v4 ⟨⟨10, 0, 0, 5⟩, 5000⟩] := by
  obtain ⟨-, -, -, hsweep, -⟩ :=
    sweeps_leave_targets_alone fivePeers ⟨10000000000⟩ (.ofMillis 10000)
  obtain ⟨-, -, -, -, hsweeps, -⟩ :=
    sweeps_leave_targets_alone fivePeers ⟨10000000001⟩ (.ofMillis 10000)
  refine ⟨by decide +kernel, by decide +kernel, ?_, ?_⟩
  · rw [hsweep _ _ _ (by decide) (by decide)]
    decide +kernel
  · rw [hsweeps]
    · decide +kernel
    · intro now' ttl' hmem
      rcases List.mem_pair.mp hmem with hfirst | hsecond
      · cases hfirst
        decide
      · cases hsecond
        decide

end LanRelay
