/-
A peer that keeps announcing itself stays a target.

Whatever else a node hears, and however often it removes the peers that are no
longer live, an entry is only put in the place of another by an announcement
from the same source, and its receive time only moves on. The gaps between the
announcements of a peer are shorter than the time to live of a configuration
that is accepted.

Main statements: `Node.Remembers.act` for what a node does in one act,
`Node.Remembers.run`, and `announcing_peer_is_never_lost`.
-/
import LanRelay.Proofs.Bus.Staleness
import Mathlib.Data.List.Chain

namespace LanRelay

/-- The second moment is no more than so long after the first. -/
def Instant.Within (span : Span) (t t' : Instant) : Prop :=
  t'.nanos ≤ t.nanos + span

/-! Announcements of one peer. -/

/-- The announcement that a datagram brings to a presence socket. -/
def Heard.announcement? (heard : Heard) : Option Announcement :=
  match heard.channel with
  | .presence => (Announcement.decode heard.bytes).toOption
  | .events => none

theorem Heard.announcement?_eq_some_iff {heard : Heard}
    {announcement : Announcement} :
    heard.announcement? = some announcement ↔ heard.Announces announcement := by
  unfold announcement? Announces
  cases heard.channel with
  | events => simp
  | presence =>
      cases Announcement.decode heard.bytes <;> simp [Except.toOption]

namespace NodeAct

/-- What the clock of a node shows in an act. -/
def now : NodeAct → Instant
  | hear heard _ => heard.now
  | announce now | send _ now _ => now

def announcementFrom? (source : Endpoint) : NodeAct → Option Announcement
  | hear heard _ =>
      if heard.source = source then heard.announcement? else none
  | announce _ | send .. => none

/-- When the presence socket hears of a source, if that is what happens. -/
def heardFrom? (source : Endpoint) (act : NodeAct) : Option Instant :=
  (act.announcementFrom? source).map fun _ => act.now

/-- When the presence socket hears of a source, the first time at the head. -/
def heardFrom (source : Endpoint) (acts : List NodeAct) : List Instant :=
  acts.filterMap (heardFrom? source)

/-- The clock does not go back, and stays in the years 1 to 9999. -/
structure Forward (acts : List NodeAct) : Prop where
  order : acts.Pairwise (·.now.nanos ≤ ·.now.nanos)
  calendar : ∀ act ∈ acts, act.now.InCalendar

/-- A source always announces the same port, and with no more than this much
time in between. -/
structure KeepsAnnouncing (source : Endpoint) (port : UInt16) (interval : Span)
    (acts : List NodeAct) : Prop where
  port_eq : ∀ act ∈ acts, ∀ announcement,
    act.announcementFrom? source = some announcement →
      announcement.port = port
  gaps : (heardFrom source acts).IsChain (Instant.Within interval)

theorem now_of_heardFrom? {source : Endpoint} {act : NodeAct} {t : Instant}
    (h : act.heardFrom? source = some t) : t = act.now := by
  obtain ⟨_, -, ht⟩ := Option.map_eq_some_iff.mp h
  exact ht.symm

variable {source : Endpoint} {since : Instant} {interval ttl : Span}

/-- Until a source is heard again, or for the time to live after it was last
heard, no more than the time to live passes. -/
theorem le_since_add_ttl {acts : List NodeAct} {time : Instant}
    (hshort : interval ≤ ttl)
    (hgaps : (since :: heardFrom source acts).IsChain
      (Instant.Within interval))
    (htime : ∀ act ∈ acts, time.nanos ≤ act.now.nanos)
    (hlast : Instant.Within ttl
      ((heardFrom source acts).getLast?.getD since) time) :
    Instant.Within ttl since time := by
  cases hheard : heardFrom source acts with
  | nil => simpa [hheard] using hlast
  | cons t times =>
      rw [hheard, List.isChain_cons_cons] at hgaps
      have ht : t ∈ heardFrom source acts := by
        rw [hheard]
        exact List.mem_cons_self
      obtain ⟨act, hact, hagain⟩ := List.mem_filterMap.mp ht
      have hbefore := htime act hact
      rw [← now_of_heardFrom? hagain] at hbefore
      have hgap := hgaps.1
      unfold Instant.Within Span at *
      omega

end NodeAct

/-! What a node remembers of a peer. -/

/-- The table has an entry for a source with the given port, and it is not
older than this. -/
def Node.Remembers (node : Node) (source : Endpoint) (port : UInt16)
    (since : Instant) : Prop :=
  ∃ entry t, node.table.get? source = some entry ∧ entry.port = port ∧
    entry.receivedAt = some (.ofInstant t) ∧ t.InCalendar ∧
    since.nanos ≤ t.nanos

namespace Node

variable {node : Node} {source : Endpoint} {port : UInt16} {since : Instant}

theorem remembers_of_announced {act : NodeAct} {announcement : Announcement}
    (h : act.announcementFrom? source = some announcement)
    (hcalendar : act.now.InCalendar) :
    (node.act act).Remembers source announcement.port act.now := by
  cases act with
  | hear heard hclock =>
      simp only [NodeAct.announcementFrom?] at h
      split at h
      · rename_i hsource
        have hannounces := Heard.announcement?_eq_some_iff.mp h
        have hhears := node.hear_spec heard
        simp only [Node.act]
        generalize node.hear heard = node' at hhears ⊢
        cases hhears with
        | peer other hother =>
            obtain rfl : other = announcement := by
              rw [Heard.announcement?_eq_some_iff.mpr hother] at h
              exact Option.some.inj h
            refine ⟨other.stamped (.ofInstant heard.now), heard.now, ?_, rfl,
              rfl, hcalendar, Int.le_refl _⟩
            rw [recordPeer, Keyed.get?_put, if_pos hsource.symm]
        | refresh other hrefreshes =>
            exact absurd hannounces
              (Heard.not_announces_of_events hrefreshes.1 _)
        | event event htells =>
            exact absurd hannounces (Heard.not_announces_of_events htells.1 _)
        | malformed fault hfault =>
            exact absurd hannounces
              (Heard.not_announces_of_read_error hfault _)
      · cases h
  | announce now => cases h
  | send event now reaches => cases h

theorem isLive_of_remembered {entry : Announcement} {t now : Instant}
    {ttl : Span} (hreceived : entry.receivedAt = some (.ofInstant t))
    (hcalendar : t.InCalendar) (hsince : since.nanos ≤ t.nanos)
    (hnow : Instant.Within ttl since now) : entry.isLive now ttl = true := by
  refine Announcement.isLive_iff.mpr ⟨_, _, hreceived,
    Timestamp.valid_ofInstant hcalendar,
    Timestamp.ageAt_ofInstant hcalendar now, ?_⟩
  unfold Instant.Within Span at *
  omega

namespace Remembers

/-- Nothing but an announcement of the source itself takes the place of its
entry. -/
theorem other (h : node.Remembers source port since) {act : NodeAct}
    (hother : act.announcementFrom? source = none)
    (hcalendar : act.now.InCalendar) (hafter : since.nanos ≤ act.now.nanos)
    (hsoon : Instant.Within node.ttl since act.now) :
    (node.act act).Remembers source port since := by
  obtain ⟨entry, t, hentry, hport, hreceived, ht, hsince⟩ := h
  cases act with
  | hear heard hclock =>
      have hhears := node.hear_spec heard
      simp only [Node.act]
      generalize node.hear heard = node' at hhears ⊢
      cases hhears with
      | peer announcement hannounces =>
          have hne : source ≠ heard.source := by
            rintro rfl
            simp only [NodeAct.announcementFrom?, if_true,
              Heard.announcement?_eq_some_iff.mpr hannounces] at hother
            cases hother
          refine ⟨entry, t, ?_, hport, hreceived, ht, hsince⟩
          rw [recordPeer, Keyed.get?_put, if_neg hne, hentry]
      | refresh announcement hrefreshes =>
          have hget : (node.refreshPeer heard.source announcement
              heard.now).table.get? source = some
                (if PeerTable.isSender heard.source source entry then
                  { entry with receivedAt := some (.ofInstant heard.now) }
                else entry) := by
            rw [refreshPeer, PeerTable.refresh, Keyed.get?_mapValues, hentry]
            rfl
          cases hsender : PeerTable.isSender heard.source source entry with
          | false =>
              refine ⟨entry, t, ?_, hport, hreceived, ht, hsince⟩
              simpa [hsender] using hget
          | true =>
              -- The entry is taken as received now, which is later.
              refine ⟨{ entry with receivedAt := some (.ofInstant heard.now) },
                heard.now, ?_, hport, rfl, hcalendar, hafter⟩
              simpa [hsender] using hget
      | event event htells =>
          obtain ⟨delivery, tally, hrecord⟩ := node.recordEvent_eq event
          rw [hrecord]
          exact ⟨entry, t, hentry, hport, hreceived, ht, hsince⟩
      | malformed fault hfault =>
          exact ⟨entry, t, hentry, hport, hreceived, ht, hsince⟩
  | announce now =>
      have hannounces := node.announce_spec now
      simp only [Node.act]
      generalize node.announce now = result at hannounces ⊢
      cases hannounces with
      | silent fault hfault =>
          exact ⟨entry, t, hentry, hport, hreceived, ht, hsince⟩
      | announced bytes hbytes =>
          refine ⟨entry, t, ?_, hport, hreceived, ht, hsince⟩
          have hfresh := Announcement.isLive_iff.mp
            (isLive_of_remembered hreceived ht hsince hsoon)
          exact (PeerTable.get?_sweep ..).mpr ⟨hentry, hfresh⟩
  | send event now reaches =>
      obtain ⟨tally, hsend⟩ := node.send_fst event now reaches
      simp only [Node.act, hsend]
      exact ⟨entry, t, hentry, hport, hreceived, ht, hsince⟩

/-- An act leaves an entry that is as fresh as before, and fresher if its
source has announced itself again. -/
theorem act (h : node.Remembers source port since) {act : NodeAct}
    (hcalendar : act.now.InCalendar) (hafter : since.nanos ≤ act.now.nanos)
    (hsoon : Instant.Within node.ttl since act.now)
    (hport : ∀ announcement,
      act.announcementFrom? source = some announcement →
        announcement.port = port) :
    (node.act act).Remembers source port
      ((act.heardFrom? source).getD since) := by
  cases hfrom : act.announcementFrom? source with
  | none =>
      simp only [NodeAct.heardFrom?, hfrom]
      exact h.other hfrom hcalendar hafter hsoon
  | some announcement =>
      simp only [NodeAct.heardFrom?, hfrom]
      rw [← hport announcement hfrom]
      exact remembers_of_announced hfrom hcalendar

open NodeAct in
/-- For as long as its source is heard again in time, and for the time to live
after it is last heard, a node has an entry that is fresh. -/
theorem run {acts later : List NodeAct} {interval : Span} {now : Instant}
    (h : node.Remembers source port since) (hshort : interval ≤ node.ttl)
    (hforward : Forward (acts ++ later))
    (hafter : ∀ act ∈ acts ++ later, since.nanos ≤ act.now.nanos)
    (hports : ∀ act ∈ acts, ∀ announcement,
      act.announcementFrom? source = some announcement →
        announcement.port = port)
    (hgaps : (since :: heardFrom source (acts ++ later)).IsChain
      (Instant.Within interval))
    (hacts : ∀ act ∈ acts, act.now.nanos ≤ now.nanos)
    (hlater : ∀ act ∈ later, now.nanos ≤ act.now.nanos)
    (hlast : Instant.Within node.ttl
      ((heardFrom source (acts ++ later)).getLast?.getD since) now) :
    ∃ since', (node.run acts).Remembers source port since' ∧
      Instant.Within node.ttl since' now := by
  induction acts generalizing node since with
  | nil => exact ⟨since, h, le_since_add_ttl hshort hgaps hlater hlast⟩
  | cons act acts ih =>
      rw [List.cons_append] at hforward hafter hgaps hlast
      rw [List.forall_mem_cons] at hafter hports hacts
      obtain ⟨hfirst, horder⟩ := List.pairwise_cons.mp hforward.order
      obtain ⟨hcalendar, hcalendars⟩ :=
        List.forall_mem_cons.mp hforward.calendar
      have hsoon : Instant.Within node.ttl since act.now := by
        refine le_since_add_ttl hshort hgaps ?_ (Int.le_trans hacts.1 hlast)
        rw [List.forall_mem_cons]
        exact ⟨Int.le_refl _, hfirst⟩
      have hstep := h.act hcalendar hafter.1 hsoon hports.1
      have httl : (node.act act).ttl = node.ttl := by
        rw [Node.ttl, (node.setup_act act).1, Node.ttl]
      rw [← httl] at hshort hlast ⊢
      cases hheard : act.heardFrom? source with
      | none =>
          rw [heardFrom, List.filterMap_cons_none hheard] at hgaps hlast
          rw [hheard] at hstep
          exact ih hstep hshort ⟨horder, hcalendars⟩ hafter.2 hports.2 hgaps
            hacts.2 hlast
      | some t =>
          obtain rfl := now_of_heardFrom? hheard
          rw [heardFrom, List.filterMap_cons_some hheard] at hgaps hlast
          rw [List.getLast?_cons, Option.getD_some] at hlast
          rw [hheard] at hstep
          exact ih hstep hshort ⟨horder, hcalendars⟩ hfirst hports.2
            (List.isChain_cons_cons.mp hgaps).2 hacts.2 hlast

end Remembers

open NodeAct in
/-- From the first announcement of a source on, a node has an entry for it. -/
theorem exists_remembers_run {earlier later : List NodeAct} {interval : Span}
    {last now : Instant} (hshort : interval ≤ node.ttl)
    (hforward : Forward (earlier ++ later))
    (hkeeps : KeepsAnnouncing source port interval (earlier ++ later))
    (hfirst : heardFrom source earlier ≠ [])
    (hlast : (heardFrom source (earlier ++ later)).getLast? = some last)
    (hsoon : Instant.Within node.ttl last now)
    (hearlier : ∀ act ∈ earlier, act.now.nanos ≤ now.nanos)
    (hlater : ∀ act ∈ later, now.nanos ≤ act.now.nanos) :
    ∃ since, (node.run earlier).Remembers source port since ∧
      Instant.Within node.ttl since now := by
  obtain ⟨t, times, htimes⟩ := List.exists_cons_of_ne_nil hfirst
  obtain ⟨before, act, after, rfl, hnone, hheard, hafter⟩ :=
    List.filterMap_eq_cons_iff.mp htimes
  obtain ⟨announcement, hannounced, rfl⟩ := Option.map_eq_some_iff.mp hheard
  have hall : heardFrom source (before ++ act :: after ++ later) =
      act.now :: heardFrom source (after ++ later) := by
    rw [List.append_assoc, heardFrom, List.filterMap_append,
      List.filterMap_eq_nil_iff.mpr hnone, List.nil_append, List.cons_append,
      List.filterMap_cons_some hheard]
    rfl
  have hgaps := hkeeps.gaps
  rw [hall] at hgaps hlast
  rw [List.getLast?_cons, Option.some.injEq] at hlast
  have hrest : (act :: (after ++ later)).Sublist
      (before ++ act :: after ++ later) := by
    rw [List.append_assoc]
    exact List.sublist_append_right ..
  obtain ⟨hlatest, horder⟩ := List.pairwise_cons.mp
    (hforward.order.sublist hrest)
  have hcalendar := List.forall_mem_cons.mp
    fun other hother => hforward.calendar other (hrest.subset hother)
  have hports := List.forall_mem_cons.mp
    fun other hother => hkeeps.port_eq other (hrest.subset hother)
  have hmet : ((node.run before).act act).Remembers source port act.now := by
    rw [← hports.1 announcement hannounced]
    exact remembers_of_announced hannounced hcalendar.1
  have hrun : node.run (before ++ act :: after) =
      ((node.run before).act act).run after := by
    rw [run, List.foldl_append]
    rfl
  have httl : ((node.run before).act act).ttl = node.ttl := by
    rw [ttl, (setup_act ..).1, (node.setup_run before).1, ttl]
  rw [← httl] at hshort hsoon ⊢
  rw [hrun]
  apply hmet.run hshort ⟨horder, hcalendar.2⟩ hlatest _ hgaps _ hlater
    (hlast ▸ hsoon)
  · intro other hother
    exact hports.2 other (List.mem_append_left _ hother)
  · intro other hother
    apply hearlier
    exact List.mem_append_right _ (List.mem_cons_of_mem _ hother)

end Node

theorem Announcement.exists_deliveryAddress? {entry : Announcement}
    (hport : entry.port ≠ 0) (source : Endpoint) (target : DeliveryTarget) :
    ∃ address, entry.deliveryAddress? source target = some address := by
  unfold deliveryAddress?
  rw [if_neg hport]
  exact ⟨_, rfl⟩

theorem PeerTable.mem_liveTargets {table : PeerTable} {now : Instant}
    {ttl : Span} {target : DeliveryTarget} {source address : Endpoint}
    {entry : Announcement} (hentry : table.get? source = some entry)
    (hlive : entry.isLive now ttl = true)
    (haddress : entry.deliveryAddress? source target = some address) :
    address ∈ table.liveTargets now ttl target := by
  rw [liveTargets, Endpoint.mem_sortDistinct, List.mem_filterMap]
  refine ⟨(source, entry), Keyed.mem_entries_iff.mpr hentry, ?_⟩
  simp only [hlive, haddress, if_true]

/-- A configuration that is accepted has peers live longer than they wait
between announcements. -/
theorem Blueprint.interval_lt_ttl {blueprint : Blueprint}
    (h : blueprint.validate = .ok ()) :
    blueprint.bus.announceIntervalMs < blueprint.bus.peerTtlMs := by
  unfold validate at h
  cases hbreach : blueprint.breach? with
  | some breach => simp [hbreach] at h
  | none =>
      by_contra hle
      rw [UInt64.not_lt] at hle
      simp only [breach?, if_pos hle] at hbreach
      split at hbreach
      · cases hbreach
      · split at hbreach <;> cases hbreach

open NodeAct in
/-- Under a configuration that is accepted, a peer that keeps announcing itself
has an entry and is a target from its first announcement on, until the time to
live has passed after its last one. -/
theorem announcing_peer_is_never_lost {blueprint : Blueprint}
    (hvalid : blueprint.validate = .ok ()) {node : Node}
    (hsettings : node.settings = blueprint.bus) {source : Endpoint}
    {port : UInt16} (hport : port ≠ 0) (earlier later : List NodeAct)
    (hforward : Forward (earlier ++ later))
    (hkeeps : KeepsAnnouncing source port
      (.ofMillis blueprint.bus.announceIntervalMs.toNat) (earlier ++ later))
    {last now : Instant}
    (hfirst : heardFrom source earlier ≠ [])
    (hlast : (heardFrom source (earlier ++ later)).getLast? = some last)
    (hsoon : Instant.Within node.ttl last now)
    (hearlier : ∀ act ∈ earlier, act.now.nanos ≤ now.nanos)
    (hlater : ∀ act ∈ later, now.nanos ≤ act.now.nanos) :
    ∃ entry address, (node.run earlier).table.get? source = some entry ∧
      entry.port = port ∧ entry.isLive now node.ttl = true ∧
      entry.deliveryAddress? source node.settings.deliveryTarget =
        some address ∧
      address ∈ (node.run earlier).targets now := by
  have hshort : Span.ofMillis blueprint.bus.announceIntervalMs.toNat ≤
      node.ttl := by
    have hlt := UInt64.lt_iff_toNat_lt.mp (Blueprint.interval_lt_ttl hvalid)
    rw [Node.ttl, hsettings, Span.ofMillis, Span.ofMillis]
    exact Nat.mul_le_mul_right _ (Nat.le_of_lt hlt)
  obtain ⟨since, ⟨entry, t, hentry, rfl, hreceived, hcalendar, hsince⟩, hnow⟩ :=
    node.exists_remembers_run hshort hforward hkeeps hfirst hlast hsoon
      hearlier hlater
  have hlive := Node.isLive_of_remembered hreceived hcalendar hsince hnow
  obtain ⟨address, haddress⟩ := entry.exists_deliveryAddress? hport source
    node.settings.deliveryTarget
  refine ⟨entry, address, hentry, rfl, hlive, haddress, ?_⟩
  rw [Node.targets, Node.ttl, (node.setup_run earlier).1]
  exact PeerTable.mem_liveTargets hentry hlive haddress

/-- The visitor announces itself again one second after its first visit, an
empty datagram comes in at the event socket, and ten seconds later it is time
for a round of presence. -/
def twoVisits : List NodeAct :=
  [visit,
    .hear ⟨.presence, visitorAnnouncement.toWire, visitor, ⟨1000000000⟩⟩
      (by decide),
    .hear ⟨.events, [], visitor, ⟨2000000000⟩⟩ (by decide),
    .announce ⟨11000000000⟩]

theorem announcementFrom?_visit (t : Instant) (hclock : t.OnClock) :
    NodeAct.announcementFrom? visitor (.hear
      ⟨.presence, visitorAnnouncement.toWire, visitor, t⟩ hclock) =
        some visitorAnnouncement := by
  have hdecode := Announcement.decode_toWire
    (show visitorAnnouncement.toWire.length ≤ maxDatagram by decide +kernel)
  simp [NodeAct.announcementFrom?, Heard.announcement?, hdecode,
    Except.toOption]

theorem heardFrom_twoVisits :
    NodeAct.heardFrom visitor twoVisits = [⟨0⟩, ⟨1000000000⟩] := by
  simp only [NodeAct.heardFrom, twoVisits, visit, NodeAct.heardFrom?,
    List.filterMap_cons, announcementFrom?_visit]
  rfl

theorem keepsAnnouncing_twoVisits :
    NodeAct.KeepsAnnouncing visitor 5000 (.ofMillis 1000) twoVisits where
  port_eq := by
    intro act hact announcement hfrom
    simp only [twoVisits, visit, List.mem_cons, List.not_mem_nil,
      or_false] at hact
    rcases hact with rfl | rfl | rfl | rfl
    · cases (announcementFrom?_visit _ _).symm.trans hfrom
      rfl
    · cases (announcementFrom?_visit _ _).symm.trans hfrom
      rfl
    · cases hfrom
    · cases hfrom
  gaps := by
    rw [heardFrom_twoVisits, List.isChain_pair]
    exact Int.le_refl _

/-- Ten seconds to the nanosecond after it was last heard the visitor is still
a target. -/
theorem announcing_peer_is_never_lost_after_twoVisits :
    (blueprintNamed 3).validate = .ok () ∧
      (nodeNamed 3).settings = (blueprintNamed 3).bus ∧
      ∃ entry address,
        ((nodeNamed 3).run twoVisits).table.get? visitor = some entry ∧
        entry.port = 5000 ∧
        entry.isLive ⟨11000000000⟩ (nodeNamed 3).ttl = true ∧
        entry.deliveryAddress? visitor (nodeNamed 3).settings.deliveryTarget =
          some address ∧
        address ∈ ((nodeNamed 3).run twoVisits).targets ⟨11000000000⟩ := by
  have hvalid := validate_named (by decide : 0 < 3)
  refine ⟨hvalid, rfl, ?_⟩
  apply announcing_peer_is_never_lost hvalid rfl (by decide) twoVisits []
  · exact ⟨by decide, by decide⟩
  · exact keepsAnnouncing_twoVisits
  · rw [heardFrom_twoVisits]
    exact List.cons_ne_nil _ _
  · rw [List.append_nil, heardFrom_twoVisits]
    rfl
  · exact Int.le_refl _
  · decide
  · exact fun _ hact => absurd hact List.not_mem_nil

end LanRelay
