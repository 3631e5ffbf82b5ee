/-
What a sender says about itself adds no target.

Of an announcement only the port has a say in what the targets are. The host
and the times in it may be anything.

Main statement: `liveTargets_run_of_alike`.
-/
import LanRelay.Proofs.Bus.Handling
import Mathlib.Data.List.Forall2

namespace LanRelay

/-! Messages that differ in what they say about their sender. -/

/-- Two messages that may differ in the host and in the times of an
announcement. -/
inductive Datagram.Alike : Datagram → Datagram → Prop where
  | announcement {x y : Announcement} (hport : x.port = y.port)
      (hservice : x.service = y.service) :
      Alike (.announcement x) (.announcement y)
  | event (event : Event) : Alike (.event event) (.event event)

/-- Both cannot be read, or both hold messages that are alike. -/
inductive ReadAlike : Except Fault Datagram → Except Fault Datagram → Prop where
  | error (fault fault' : Fault) : ReadAlike (.error fault) (.error fault')
  | ok {x y : Datagram} (h : x.Alike y) : ReadAlike (.ok x) (.ok y)

/-- Two datagrams that come the same way at the same time, with messages that
are alike. -/
structure Heard.Alike (x y : Heard) : Prop where
  channel : x.channel = y.channel
  source : x.source = y.source
  now : x.now = y.now
  message : ReadAlike (Node.readDatagram x.bytes x.channel)
    (Node.readDatagram y.bytes y.channel)

inductive NodeAct.Alike : NodeAct → NodeAct → Prop where
  | hear {x y : Heard} (hx : x.now.OnClock) (hy : y.now.OnClock)
      (h : x.Alike y) : Alike (.hear x hx) (.hear y hy)
  | announce (now : Instant) : Alike (.announce now) (.announce now)
  | send (event : Event) (now : Instant) (reaches : Endpoint → Bool) :
      Alike (.send event now reaches) (.send event now reaches)

/-! What is left of a table without what the peers say about themselves. -/

/-- The announcement without host, service, and time of sending. -/
def Announcement.bare (announcement : Announcement) : Announcement :=
  { announcement with host := "", service := "", sentAt := .zero }

namespace PeerTable

def bare (table : PeerTable) : PeerTable :=
  table.mapValues fun _ entry => entry.bare

theorem bare_put (table : PeerTable) (source : Endpoint)
    (announcement : Announcement) : bare (table.put source announcement) =
      table.bare.put source announcement.bare :=
  Keyed.mapValues_put ..

theorem bare_refresh (table : PeerTable) (source : Endpoint)
    (announcement : Announcement) : (table.refresh source announcement).bare =
      table.bare.refresh source announcement := by
  apply Keyed.mapValues_mapValues
  intro key entry
  change (if isSender source key entry then _ else entry).bare =
    if isSender source key entry then _ else entry.bare
  split <;> rfl

theorem bare_sweep (table : PeerTable) (now : Instant) (ttl : Span) :
    (table.sweep now ttl).bare = table.bare.sweep now ttl :=
  table.mapValues_keepIf fun _ _ => rfl

theorem liveTargets_bare (table : PeerTable) (now : Instant) (ttl : Span) :
    table.bare.liveTargets now ttl .sourceHost =
      table.liveTargets now ttl .sourceHost := by
  simp only [liveTargets, bare, Keyed.mapValues, List.filterMap_map]
  rfl

end PeerTable

/-- Two nodes that differ in what their peers say about themselves, and in what
does not bear on the targets. -/
structure Node.Alike (x y : Node) : Prop where
  settings : x.settings = y.settings
  address : x.address = y.address
  table : x.table.bare = y.table.bare

namespace Node.Alike

variable {x y : Node}

theorem recordPeer (h : x.Alike y) (source : Endpoint) (now : Instant)
    {announcement announcement' : Announcement}
    (hport : announcement.port = announcement'.port) :
    (x.recordPeer source announcement now).Alike
      (y.recordPeer source announcement' now) where
  settings := h.settings
  address := h.address
  table := by
    simp only [Node.recordPeer, PeerTable.bare_put, h.table,
      Announcement.stamped, Announcement.bare, hport]

theorem refreshPeer (h : x.Alike y) (source : Endpoint) (now : Instant)
    (announcement announcement' : Announcement) :
    (x.refreshPeer source announcement now).Alike
      (y.refreshPeer source announcement' now) where
  settings := h.settings
  address := h.address
  table := by
    simp only [Node.refreshPeer, PeerTable.bare_refresh, h.table]
    rfl

theorem recordEvent (h : x.Alike y) (event : Event) :
    (x.recordEvent event).Alike (y.recordEvent event) := by
  obtain ⟨delivery, tally, hx⟩ := x.recordEvent_eq event
  obtain ⟨delivery', tally', hy⟩ := y.recordEvent_eq event
  rw [hx, hy]
  exact ⟨h.settings, h.address, h.table⟩

theorem hear (h : x.Alike y) {heard heard' : Heard}
    (hheard : heard.Alike heard') : (x.hear heard).Alike (y.hear heard') := by
  obtain ⟨channel, bytes, source, now⟩ := heard
  obtain ⟨channel', bytes', source', now'⟩ := heard'
  obtain ⟨rfl, rfl, rfl, hmessage⟩ := hheard
  dsimp only at hmessage
  simp only [Node.hear, handle]
  generalize readDatagram bytes channel = message at hmessage ⊢
  generalize readDatagram bytes' channel = message' at hmessage ⊢
  cases hmessage with
  | error fault fault' =>
      cases channel <;> exact ⟨h.settings, h.address, h.table⟩
  | ok hdatagram =>
      cases hdatagram with
      | announcement hport hservice =>
          cases channel with
          | presence => exact h.recordPeer _ _ hport
          | events => exact h.refreshPeer _ _ _ _
      | event event =>
          cases channel with
          | presence => exact h
          | events => exact h.recordEvent event

theorem announce (h : x.Alike y) (now : Instant) :
    (x.announce now).1.Alike (y.announce now).1 := by
  have hsame : x.announcement now = y.announcement now := by
    rw [Node.announcement, Node.announcement, h.settings, h.address]
  have hsweep : (x.sweep now).Alike (y.sweep now) := by
    refine ⟨h.settings, h.address, ?_⟩
    simp only [Node.sweep, Node.ttl, PeerTable.bare_sweep, h.table, h.settings]
  unfold Node.announce
  rw [hsame]
  cases (y.announcement now).encode with
  | error fault => exact h
  | ok bytes => exact hsweep

theorem act (h : x.Alike y) {act act' : NodeAct} (hact : act.Alike act') :
    (x.act act).Alike (y.act act') := by
  cases hact with
  | hear hx hy hheard => exact h.hear hheard
  | announce now => exact h.announce now
  | send event now reaches =>
      obtain ⟨tally, hx⟩ := x.send_fst event now reaches
      obtain ⟨tally', hy⟩ := y.send_fst event now reaches
      simp only [Node.act, hx, hy]
      exact ⟨h.settings, h.address, h.table⟩

theorem run (h : x.Alike y) {acts acts' : List NodeAct}
    (hacts : List.Forall₂ NodeAct.Alike acts acts') :
    (x.run acts).Alike (y.run acts') := by
  induction hacts generalizing x y with
  | nil => exact h
  | cons hact _ ih => exact ih (h.act hact)

end Node.Alike

/-- The targets are the same, whatever the senders say about themselves. -/
theorem liveTargets_run_of_alike (node : Node) {acts acts' : List NodeAct}
    (h : List.Forall₂ NodeAct.Alike acts acts') (now : Instant) (ttl : Span) :
    (node.run acts').table.liveTargets now ttl .sourceHost =
      (node.run acts).table.liveTargets now ttl .sourceHost := by
  have halike : (node.run acts).Alike (node.run acts') :=
    Node.Alike.run ⟨rfl, rfl, rfl⟩ h
  rw [← PeerTable.liveTargets_bare, ← halike.table, PeerTable.liveTargets_bare]

end LanRelay
