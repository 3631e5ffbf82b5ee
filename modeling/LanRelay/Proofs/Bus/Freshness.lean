/-
Events are sent to verified and fresh peers only.

Whoever sends datagrams to a node writes all of their bytes. What becomes a
target is an address from which a presence datagram came, with the port that
the latest announcement from there names, and only while that datagram, or a
later announcement from the target itself, was handled not too long ago.

Main statements: `Vouched.hear`, by which a datagram leaves every entry of the
table with the history behind it, and `targets_are_verified_and_fresh`.
-/
import LanRelay.Proofs.Bus.Hearsay

namespace LanRelay

/-! The history behind an entry of the table. -/

/-- A datagram announces a peer, and its source announces nothing after it. -/
structure LatestFrom (history : List Heard) (presence : Heard)
    (announcement : Announcement) (after : List Heard) : Prop where
  announces : presence.Announces announcement
  split : ∃ before, history = before ++ presence :: after
  latest : ∀ later ∈ after, later.source = presence.source →
    ∀ other, ¬ later.Announces other

/-- At a time the datagram was handled, or a later announcement that came from
the target itself. -/
def HeardAt (target : Endpoint) (presence : Heard) (after : List Heard)
    (t : Instant) : Prop :=
  t = presence.now ∨ ∃ later ∈ after, (∃ other, later.Refreshes other) ∧
    later.source.ip = target.ip ∧ later.source.port = target.port ∧
    t = later.now

/-- An entry holds the latest announcement of its source, and the time at which
its peer was last heard. -/
def Vouched (history : List Heard) (source : Endpoint)
    (entry : Announcement) : Prop :=
  ∃ presence announcement after t,
    LatestFrom history presence announcement after ∧
    presence.source = source ∧
    HeardAt (.ofIp source.ip announcement.port) presence after t ∧
    t.OnClock ∧ entry = announcement.stamped (.ofInstant t)

variable {history : List Heard}

theorem LatestFrom.concat {presence heard : Heard}
    {announcement : Announcement} {after : List Heard}
    (h : LatestFrom history presence announcement after)
    (hother : heard.source = presence.source →
      ∀ other, ¬ heard.Announces other) :
    LatestFrom (history ++ [heard]) presence announcement
      (after ++ [heard]) where
  announces := h.announces
  split := by
    obtain ⟨before, rfl⟩ := h.split
    exact ⟨before, by simp⟩
  latest later hlater := by
    rcases List.mem_append.mp hlater with hlater | hlater
    · exact h.latest later hlater
    · rw [List.mem_singleton.mp hlater]
      exact hother

theorem HeardAt.concat {target : Endpoint} {presence : Heard}
    {after : List Heard} {t : Instant} (heard : Heard)
    (h : HeardAt target presence after t) :
    HeardAt target presence (after ++ [heard]) t := by
  rcases h with rfl | ⟨later, hlater, hrest⟩
  · exact Or.inl rfl
  · exact Or.inr ⟨later, List.mem_append_left _ hlater, hrest⟩

namespace Vouched

variable {source : Endpoint} {entry : Announcement} {heard : Heard}

/-- A datagram that does not announce a source leaves what stands behind its
entry. -/
theorem concat (h : Vouched history source entry)
    (hother : heard.source = source → ∀ other, ¬ heard.Announces other) :
    Vouched (history ++ [heard]) source entry := by
  obtain ⟨presence, announcement, after, t, hlatest, rfl, hheard, hrest⟩ := h
  exact ⟨presence, announcement, after ++ [heard], t, hlatest.concat hother,
    rfl, hheard.concat heard, hrest⟩

theorem of_announces {announcement : Announcement}
    (h : heard.Announces announcement) (hclock : heard.now.OnClock) :
    Vouched (history ++ [heard]) heard.source
      (announcement.stamped (.ofInstant heard.now)) :=
  ⟨heard, announcement, [], heard.now,
    ⟨h, ⟨history, rfl⟩, fun _ hlater => absurd hlater List.not_mem_nil⟩, rfl,
    Or.inl rfl, hclock, rfl⟩

/-- An announcement from the address and port of a peer brings the time of its
entry up to date. -/
theorem of_refreshes {announcement : Announcement}
    (h : Vouched history source entry) (hclock : heard.now.OnClock)
    (hrefreshes : heard.Refreshes announcement)
    (hsender : PeerTable.isSender heard.source source entry = true) :
    Vouched (history ++ [heard]) source
      { entry with receivedAt := some (.ofInstant heard.now) } := by
  obtain ⟨presence, announced, after, t, hlatest, rfl, hheard, hon, rfl⟩ := h
  simp only [PeerTable.isSender, Announcement.stamped, Bool.and_eq_true,
    beq_iff_eq] at hsender
  refine ⟨presence, announced, after ++ [heard], heard.now,
    hlatest.concat fun _ => Heard.not_announces_of_events hrefreshes.1, rfl,
    Or.inr ⟨heard, List.mem_append_right _ List.mem_cons_self,
      ⟨announcement, hrefreshes⟩, ?_, ?_, rfl⟩, hclock, rfl⟩
  · rw [Endpoint.ip_ofIp, hsender.1]
  · rw [Endpoint.port_ofIp, hsender.2]

end Vouched

/-- Every entry of a table has its history behind it. -/
def PeerTable.Vouched (table : PeerTable) (history : List Heard) : Prop :=
  ∀ source entry, table.get? source = some entry →
    LanRelay.Vouched history source entry

namespace PeerTable.Vouched

theorem sweep {table : PeerTable} (h : table.Vouched history) (now : Instant)
    (ttl : Span) : (table.sweep now ttl).Vouched history := by
  intro source entry hentry
  rw [PeerTable.sweep, Keyed.get?_keepIf, Option.filter_eq_some_iff] at hentry
  exact h source entry hentry.1

/-- A datagram keeps every entry with its history. -/
theorem hear {node : Node} {heard : Heard}
    (h : node.table.Vouched history) (hclock : heard.now.OnClock) :
    (node.hear heard).table.Vouched (history ++ [heard]) := by
  have hhears := node.hear_spec heard
  generalize node.hear heard = node' at hhears ⊢
  cases hhears with
  | peer announcement hannounces =>
      intro source entry hentry
      simp only [Node.recordPeer, Keyed.get?_put] at hentry
      split at hentry
      · rename_i hsource
        cases hentry
        rw [hsource]
        exact .of_announces hannounces hclock
      · rename_i hsource
        exact (h source entry hentry).concat fun heq =>
          absurd heq.symm hsource
  | refresh announcement hrefreshes =>
      intro source entry hentry
      simp only [Node.refreshPeer, PeerTable.refresh, Keyed.get?_mapValues,
        Option.map_eq_some_iff] at hentry
      obtain ⟨old, hold, rfl⟩ := hentry
      split
      · rename_i hsender
        exact (h source old hold).of_refreshes hclock hrefreshes hsender
      · exact (h source old hold).concat fun _ =>
          Heard.not_announces_of_events hrefreshes.1
  | event event htells =>
      obtain ⟨delivery, tally, hrecord⟩ := node.recordEvent_eq event
      intro source entry hentry
      rw [hrecord] at hentry
      exact (h source entry hentry).concat fun _ =>
        Heard.not_announces_of_events htells.1
  | malformed fault hfault =>
      intro source entry hentry
      exact (h source entry hentry).concat fun _ =>
        Heard.not_announces_of_read_error hfault

theorem act {node : Node} (h : node.table.Vouched history) (act : NodeAct) :
    (node.act act).table.Vouched (history ++ act.heard?.toList) := by
  cases act with
  | hear heard hclock => exact h.hear hclock
  | announce now =>
      have hannounces := node.announce_spec now
      simp only [Node.act, NodeAct.heard?, Option.toList_none, List.append_nil]
      generalize node.announce now = result at hannounces ⊢
      cases hannounces with
      | silent fault hfault => exact h
      | announced bytes hbytes => exact h.sweep now node.ttl
  | send event now reaches =>
      obtain ⟨tally, hsend⟩ := node.send_fst event now reaches
      simp only [Node.act, NodeAct.heard?, Option.toList_none, List.append_nil,
        hsend]
      exact h

theorem run {node : Node} (h : node.table.Vouched history)
    (acts : List NodeAct) : (node.run acts).table.Vouched
      (history ++ acts.filterMap NodeAct.heard?) := by
  induction acts generalizing node history with
  | nil => simpa using h
  | cons act acts ih =>
      have hrest := ih (h.act act)
      cases hheard : act.heard? with
      | none => simpa [List.filterMap_cons, hheard] using hrest
      | some heard => simpa [List.filterMap_cons, hheard] using hrest

end PeerTable.Vouched

/-- A target with a history of datagrams that verifies it and is fresh. -/
structure Verified (history : List Heard) (now : Instant) (ttl : Span)
    (target : Endpoint) : Prop where
  port_ne_zero : target.port ≠ 0
  heard : ∃ presence announcement after,
    LatestFrom history presence announcement after ∧
    presence.source.ip = target.ip ∧ announcement.port = target.port ∧
    ∃ t, HeardAt target presence after t ∧ now.nanos - t.nanos ≤ ttl

theorem PeerTable.Vouched.verified {table : PeerTable}
    (h : table.Vouched history) {now : Instant} {ttl : Span}
    {target : Endpoint}
    (htarget : target ∈ table.liveTargets now ttl .sourceHost) :
    Verified history now ttl target := by
  obtain ⟨source, entry, hentry, hlive, hport, rfl⟩ :=
    PeerTable.exists_of_mem_liveTargets htarget
  obtain ⟨presence, announcement, after, t, hlatest, rfl, hheard, hclock,
    rfl⟩ := h source entry hentry
  obtain ⟨ts, age, hts, hage, hfresh⟩ := Announcement.exists_of_isLive hlive
  cases hts
  rw [Timestamp.age_of_ofInstant hclock hage] at hfresh
  constructor
  · rwa [Endpoint.port_ofIp]
  · refine ⟨presence, announcement, after, hlatest, ?_, ?_, t, hheard, ?_⟩
    · rw [Endpoint.ip_ofIp]
    · rw [Endpoint.port_ofIp]
      rfl
    · unfold Span at hfresh
      omega

/-- However a node has been run, its targets stand in order, each of them is
verified and fresh, every event goes to each of them at most once and to nobody
else, it goes to all that can be reached if it fits into a datagram, and what
senders say about themselves makes no difference. -/
theorem targets_are_verified_and_fresh (node : Node)
    (hempty : node.table = .empty)
    (hsource : node.settings.deliveryTarget = .sourceHost)
    (acts : List NodeAct) (now : Instant) (ttl : Span) :
    let later := node.run acts
    let history := acts.filterMap NodeAct.heard?
    (later.table.liveTargets now ttl .sourceHost).Pairwise
      (Endpoint.before · ·) ∧
    (∀ target ∈ later.table.liveTargets now ttl .sourceHost,
      Verified history now ttl target) ∧
    (∀ event reaches count sent,
      (later.send event now reaches).2 = .ok (count, sent) →
        count = sent.length ∧ (sent.map Prod.fst).Nodup ∧
        ∀ parcel ∈ sent, ∃ target, parcel.1 = .peer target ∧
          Verified history now node.ttl target) ∧
    (∀ event bytes reaches, event.encode = .ok bytes →
      ∃ sent, (later.send event now reaches).2 = .ok (sent.length, sent) ∧
        ∀ parcel, parcel ∈ sent ↔
          ∃ target ∈ later.table.liveTargets now node.ttl .sourceHost,
            reaches target = true ∧ parcel = (.peer target, bytes)) ∧
    ∀ acts', List.Forall₂ NodeAct.Alike acts acts' →
      (node.run acts').table.liveTargets now ttl .sourceHost =
        later.table.liveTargets now ttl .sourceHost := by
  intro later history
  have hvouched : later.table.Vouched history := by
    have hnone : node.table.Vouched [] := by
      rw [hempty]
      intro source entry hentry
      cases hentry
    exact hnone.run acts
  have hsettings : later.settings = node.settings :=
    (node.setup_run acts).1
  have htargets : later.targets now =
      later.table.liveTargets now node.ttl .sourceHost := by
    rw [Node.targets, Node.ttl, hsettings, hsource, Node.ttl]
  refine ⟨Endpoint.pairwise_sortDistinct _, fun _ => hvouched.verified, ?_,
    fun event bytes reaches hencode =>
      htargets ▸ Node.exists_send_eq_ok hencode now reaches,
    fun _ halike => liveTargets_run_of_alike node halike now ttl⟩
  intro event reaches count sent hsend
  obtain ⟨bytes, -, rfl, rfl⟩ := Node.eq_of_send_eq_ok hsend
  rw [htargets]
  refine ⟨(List.length_map _).symm, ?_, fun parcel hparcel => ?_⟩
  · have hdistinct : ((later.table.liveTargets now node.ttl
        .sourceHost).filter reaches).Nodup :=
      (Endpoint.nodup_sortDistinct _).filter reaches
    rw [List.map_map]
    exact List.Pairwise.map _ (fun x y hne hsame =>
      hne (Node.Destination.peer.inj hsame)) hdistinct
  · obtain ⟨target, htarget, rfl⟩ := List.mem_map.mp hparcel
    exact ⟨target, rfl, hvouched.verified (List.mem_filter.mp htarget).1⟩

/-- A node that has heard of nobody. -/
def newcomer : Node where
  settings := {}
  address := .v4 ⟨⟨10, 0, 0, 1⟩, 7000⟩

/-- A peer announces itself, and again from its event socket nine seconds
later. -/
def meeting : List NodeAct :=
  [.hear ⟨.presence, [10, 1, 104, 16, 136, 39, 34, 0],
      .v4 ⟨⟨10, 0, 0, 5⟩, 10000⟩, ⟨0⟩⟩ (by decide),
    .hear ⟨.events, [10, 1, 104, 16, 136, 39, 34, 0],
      .v4 ⟨⟨10, 0, 0, 5⟩, 5000⟩, ⟨9000000000⟩⟩ (by decide),
    .announce ⟨12000000000⟩]

/-- Fifteen seconds after the first announcement the peer is still a target, and
gets an event. -/
theorem targets_are_verified_and_fresh_after_meeting :
    newcomer.table = .empty ∧
    newcomer.settings.deliveryTarget = .sourceHost ∧
    Endpoint.v4 ⟨⟨10, 0, 0, 5⟩, 5000⟩ ∈ (newcomer.run meeting).table.liveTargets
      ⟨15000000000⟩ newcomer.ttl .sourceHost ∧
    Verified (meeting.filterMap NodeAct.heard?) ⟨15000000000⟩ newcomer.ttl
      (.v4 ⟨⟨10, 0, 0, 5⟩, 5000⟩) ∧
    ∃ sent, ((newcomer.run meeting).send ⟨"n", .zero, .raw []⟩ ⟨15000000000⟩
        fun _ => true).2 = .ok (sent.length, sent) ∧
      (.peer (.v4 ⟨⟨10, 0, 0, 5⟩, 5000⟩), [10, 0, 18, 1, 110, 26, 0]) ∈
        sent ∧
      (sent.map Prod.fst).Nodup := by
  have htarget : Endpoint.v4 ⟨⟨10, 0, 0, 5⟩, 5000⟩ ∈
      (newcomer.run meeting).table.liveTargets
        ⟨15000000000⟩ newcomer.ttl .sourceHost := by decide +kernel
  obtain ⟨-, hverified, honce, hsend, -⟩ := targets_are_verified_and_fresh
    newcomer rfl rfl meeting ⟨15000000000⟩ newcomer.ttl
  obtain ⟨sent, hsent, hall⟩ := hsend ⟨"n", .zero, .raw []⟩
    [10, 0, 18, 1, 110, 26, 0] (fun _ => true) (by decide +kernel)
  exact ⟨rfl, rfl, htarget, hverified _ htarget, sent, hsent,
    (hall _).mpr ⟨_, htarget, rfl, rfl⟩, (honce _ _ _ _ hsent).2.1⟩

end LanRelay
