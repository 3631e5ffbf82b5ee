/-
What a datagram may touch of a node, by the channel that it comes in at.

On the presence channel it is its own entry of the table, on the event channel
the receive times of the peers at its source, the latest events and the queue,
and what cannot be read is counted. Every datagram is counted once, or is an
announcement at an event socket.

Main statements: `Node.counted_hear`, by which a datagram adds one to the counts
of what is handled, and `datagrams_stay_in_their_channel`.
-/
import LanRelay.Proofs.Bus.Refreshing

namespace LanRelay

theorem Keyed.keys_mapValues {κ α : Type} [DecidableEq κ] (map : Keyed κ α)
    (f : κ → α → α) : (map.mapValues f).keys = map.keys := by
  simp [keys, mapValues]

/-- It is read as an announcement at an event socket. -/
def Heard.isRefresh (heard : Heard) : Bool :=
  match heard.channel, heard.read with
  | .events, .ok (.announcement _) => true
  | _, _ => false

namespace Node

/-- Nothing has changed but one count. -/
structure OnlyCounted (counter : Counter) (node later : Node) : Prop where
  table : later.table = node.table
  latest : later.latest = node.latest
  delivery : later.delivery = node.delivery
  settings : later.settings = node.settings
  address : later.address = node.address
  get_tally : ∀ other, later.tally.get other =
    node.tally.get other + if other = counter then 1 else 0

/-- Of the table nothing has changed but what it has of one peer. -/
structure OnlyIntroduced (source : Endpoint) (node later : Node) : Prop where
  latest : later.latest = node.latest
  delivery : later.delivery = node.delivery
  settings : later.settings = node.settings
  address : later.address = node.address
  get?_table : ∀ key, key ≠ source →
    later.table.get? key = node.table.get? key

/-- Every peer is still in the table, and what it has of them is as before, but
for the receive times of the peers at a source. -/
structure OnlyHeardAgain (source : Endpoint) (now : Instant)
    (node later : Node) : Prop where
  keys : later.table.keys = node.table.keys
  settings : later.settings = node.settings
  address : later.address = node.address
  entry : ∀ key after, later.table.get? key = some after →
    ∃ before, node.table.get? key = some before ∧
      after.host = before.host ∧ after.port = before.port ∧
      after.service = before.service ∧ after.sentAt = before.sentAt ∧
      (after.receivedAt = before.receivedAt ∨
        key.ip = source.ip ∧ before.port = source.port ∧
          after.receivedAt = some (.ofInstant now))

variable {node : Node} {heard : Heard}

/-- A table that has stayed as it is. -/
theorem OnlyHeardAgain.of_table_eq {source : Endpoint} {now : Instant}
    {later : Node} (htable : later.table = node.table)
    (hsettings : later.settings = node.settings)
    (haddress : later.address = node.address) :
    OnlyHeardAgain source now node later where
  keys := congrArg Keyed.keys htable
  settings := hsettings
  address := haddress
  entry _ after hafter :=
    ⟨after, htable ▸ hafter, rfl, rfl, rfl, rfl, Or.inl rfl⟩

theorem onlyHeardAgain_refreshPeer (node : Node) (source : Endpoint)
    (announcement : Announcement) (now : Instant) :
    OnlyHeardAgain source now node
      (node.refreshPeer source announcement now) where
  keys := Keyed.keys_mapValues ..
  settings := rfl
  address := rfl
  entry key after hafter := by
    rw [refreshPeer, PeerTable.refresh, Keyed.get?_mapValues,
      Option.map_eq_some_iff] at hafter
    obtain ⟨before, hbefore, rfl⟩ := hafter
    refine ⟨before, hbefore, ?_⟩
    by_cases hsender : PeerTable.isSender source key before = true
    · rw [if_pos hsender]
      rw [PeerTable.isSender, Bool.and_eq_true, beq_iff_eq, beq_iff_eq]
        at hsender
      exact ⟨rfl, rfl, rfl, rfl, Or.inr ⟨hsender.1, hsender.2, rfl⟩⟩
    · rw [if_neg hsender]
      exact ⟨rfl, rfl, rfl, rfl, Or.inl rfl⟩

/-- What cannot be read changes nothing but the count of its channel. -/
theorem onlyCounted_hear {fault : Fault} (h : heard.read = .error fault) :
    OnlyCounted (.busDecodeErrors heard.channel) node (node.hear heard) := by
  have hhears := node.hear_spec heard
  generalize node.hear heard = later at hhears ⊢
  cases hhears with
  | peer announcement hannounces =>
      exact absurd hannounces (Heard.not_announces_of_read_error h announcement)
  | refresh announcement hrefreshes =>
      rw [Heard.read, hrefreshes.1, readDatagram, hrefreshes.2] at h
      cases h
  | event event htells =>
      rw [Heard.read, htells.1, readDatagram, htells.2] at h
      cases h
  | malformed fault' hfault =>
      exact ⟨rfl, rfl, rfl, rfl, rfl, node.tally.get_count _⟩

theorem onlyIntroduced_hear (h : heard.channel = .presence) :
    OnlyIntroduced heard.source node (node.hear heard) := by
  have hhears := node.hear_spec heard
  generalize node.hear heard = later at hhears ⊢
  cases hhears with
  | peer announcement hannounces =>
      refine ⟨rfl, rfl, rfl, rfl, fun key hkey => ?_⟩
      rw [recordPeer, Keyed.get?_put, if_neg hkey]
  | refresh announcement hrefreshes =>
      rw [hrefreshes.1] at h
      cases h
  | event event htells =>
      rw [htells.1] at h
      cases h
  | malformed fault hfault => exact ⟨rfl, rfl, rfl, rfl, fun _ _ => rfl⟩

theorem onlyHeardAgain_hear (h : heard.channel = .events) :
    OnlyHeardAgain heard.source heard.now node (node.hear heard) := by
  have hhears := node.hear_spec heard
  generalize node.hear heard = later at hhears ⊢
  cases hhears with
  | peer announcement hannounces =>
      exact absurd hannounces (Heard.not_announces_of_events h announcement)
  | refresh announcement hrefreshes =>
      exact node.onlyHeardAgain_refreshPeer heard.source announcement heard.now
  | event event htells =>
      obtain ⟨delivery, tally, hrecord⟩ := node.recordEvent_eq event
      rw [hrecord]
      exact .of_table_eq rfl rfl rfl
  | malformed fault hfault => exact .of_table_eq rfl rfl rfl

theorem get?_table_hear_announces {announcement : Announcement}
    (h : heard.Announces announcement) :
    (node.hear heard).table.get? heard.source =
      some (announcement.stamped (.ofInstant heard.now)) := by
  simp only [hear, handle, h.1, readDatagram, h.2, Except.map]
  rw [recordPeer, Keyed.get?_put, if_pos rfl]

/-- All entries of the peers at the source are stamped, and nothing else
changes. -/
theorem onlyRefreshed_hear {announcement : Announcement}
    (h : heard.Refreshes announcement) :
    OnlyRefreshed heard.source heard.now node (node.hear heard) := by
  simp only [hear, handle, h.1, readDatagram, h.2]
  exact node.onlyRefreshed_refreshPeer heard.source announcement heard.now

/-! Counting what is handled. -/

/-- How many datagrams the counters of a node account for. -/
def counted (node : Node) : Nat :=
  node.tally.get (.busDecodeErrors .presence) +
    node.tally.get (.busDecodeErrors .events) +
    node.tally.get .announcementsReceived + node.tally.get .eventsReceived

theorem counted_deliver (node : Node) (event : Event) :
    (node.deliver event).counted = node.counted := by
  unfold deliver
  split
  · rfl
  · split
    · simp [counted, Tally.get_count]
    · rfl

/-- A datagram is counted, or it is an announcement at an event socket. -/
theorem counted_hear (node : Node) (heard : Heard) :
    (node.hear heard).counted + (if heard.isRefresh then 1 else 0) =
      node.counted + 1 := by
  have hhears := node.hear_spec heard
  generalize node.hear heard = later at hhears ⊢
  cases hhears with
  | peer announcement hannounces =>
      have hnot : heard.isRefresh = false := by
        rw [Heard.isRefresh, hannounces.1]
      rw [hnot, counted, recordPeer]
      simp [counted, Tally.get_count]
      omega
  | refresh announcement hrefreshes =>
      have hrefresh : heard.isRefresh = true := by
        rw [Heard.isRefresh, Heard.read, hrefreshes.1, readDatagram,
          hrefreshes.2]
      rw [hrefresh]
      rfl
  | event event htells =>
      have hnot : heard.isRefresh = false := by
        rw [Heard.isRefresh, Heard.read, htells.1, readDatagram, htells.2]
      rw [hnot, recordEvent, counted_deliver]
      simp [counted, Tally.get_count]
      omega
  | malformed fault hfault =>
      have hnot : heard.isRefresh = false := by
        rw [Heard.isRefresh, hfault]
        cases heard.channel <;> rfl
      rw [hnot]
      cases hchannel : heard.channel <;>
        simp [counted, Tally.get_count] <;> omega

theorem counted_foldl_hear (node : Node) (heards : List Heard) :
    (heards.foldl hear node).counted + heards.countP Heard.isRefresh =
      node.counted + heards.length := by
  induction heards generalizing node with
  | nil => rfl
  | cons heard heards ih =>
      have hfirst := node.counted_hear heard
      have hrest := ih (node.hear heard)
      rw [List.foldl_cons, List.countP_cons, List.length_cons]
      omega

end Node

open Node in
/-- Whatever a node knows and whatever comes in from wherever: a datagram that
cannot be read on its channel does nothing but count there. One of the presence
channel leaves the latest events and the queue as they are, and the table too
but for the entry of its source, which is the announcement it is read as. One at
the event socket leaves the keys of the table as they are, and the entries too
but for the receive times of the peers at its source; if it is read as an
announcement, all of these become the time at which it is handled, and nothing
else changes. And in any sequence of datagrams each is counted once as unread,
as an announcement or as an event, or is an announcement at the event socket. -/
theorem datagrams_stay_in_their_channel :
    (∀ (node : Node) (heard : Heard) (fault : Fault),
      heard.read = .error fault →
        OnlyCounted (.busDecodeErrors heard.channel) node (node.hear heard)) ∧
    (∀ (node : Node) (heard : Heard), heard.channel = .presence →
      OnlyIntroduced heard.source node (node.hear heard)) ∧
    (∀ (node : Node) (heard : Heard) (announcement : Announcement),
      heard.Announces announcement →
        (node.hear heard).table.get? heard.source =
          some (announcement.stamped (.ofInstant heard.now))) ∧
    (∀ (node : Node) (heard : Heard), heard.channel = .events →
      OnlyHeardAgain heard.source heard.now node (node.hear heard)) ∧
    (∀ (node : Node) (heard : Heard) (announcement : Announcement),
      heard.Refreshes announcement →
        OnlyRefreshed heard.source heard.now node (node.hear heard)) ∧
    ∀ (node : Node) (heards : List Heard),
      (heards.foldl hear node).counted + heards.countP Heard.isRefresh =
        node.counted + heards.length :=
  ⟨fun _ _ _ => onlyCounted_hear, fun _ _ => onlyIntroduced_hear,
    fun _ _ _ => get?_table_hear_announces, fun _ _ => onlyHeardAgain_hear,
    fun _ _ _ => onlyRefreshed_hear, counted_foldl_hear⟩

/-- A byte that begins no field, an announcement of the port 5000, and the same
announcement at the event socket five seconds later. -/
theorem datagrams_stay_in_their_channel_of_samples :
    let garbled : Heard := ⟨.events, [255], speaker, ⟨0⟩⟩
    let greeting : Heard :=
      ⟨.presence, [10, 1, 104, 16, 136, 39, 34, 0], speaker, ⟨0⟩⟩
    let again : Heard :=
      { greeting with channel := .events, now := ⟨5000000000⟩ }
    Node.OnlyCounted (.busDecodeErrors .events) listener
      (listener.hear garbled) ∧
    Node.OnlyIntroduced speaker listener (listener.hear greeting) ∧
    (listener.hear greeting).table.get? speaker =
      some ⟨"h", 5000, "", .zero, some ⟨0, 0⟩⟩ ∧
    Node.OnlyHeardAgain speaker ⟨5000000000⟩ (listener.hear greeting)
      ((listener.hear greeting).hear again) ∧
    ((listener.hear greeting).hear again).table.get? speaker =
      some ⟨"h", 5000, "", .zero, some ⟨5, 0⟩⟩ := by
  intro garbled greeting again
  obtain ⟨hmalformed, hpresence, hannounces, hevents, hrefreshes, -⟩ :=
    datagrams_stay_in_their_channel
  have hnone : (Node.readDatagram [255] .events).toOption = none := by
    decide +kernel
  have hgreeting : (listener.hear greeting).table.get? speaker =
      some ⟨"h", 5000, "", .zero, some ⟨0, 0⟩⟩ :=
    (hannounces listener greeting ⟨"h", 5000, "", .zero, none⟩
      ⟨rfl, by decide +kernel⟩).trans (by decide +kernel)
  have hagain := (hrefreshes (listener.hear greeting) again
    ⟨"h", 5000, "", .zero, none⟩ ⟨rfl, by decide +kernel⟩).get?_table speaker
  rw [hgreeting] at hagain
  have hstamped := hagain.trans (show _ =
    some (⟨"h", 5000, "", .zero, some ⟨5, 0⟩⟩ : Announcement) by decide +kernel)
  cases hread : garbled.read with
  | ok datagram =>
      rw [show Node.readDatagram [255] .events = _ from hread] at hnone
      cases hnone
  | error fault =>
      exact ⟨hmalformed listener garbled fault hread,
        hpresence listener greeting rfl, hgreeting,
        hevents (listener.hear greeting) again rfl, hstamped⟩

end LanRelay
