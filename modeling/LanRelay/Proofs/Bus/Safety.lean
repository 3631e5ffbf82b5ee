/-
On a network that makes up no datagrams, everybody knows only what was said.

An announcement and an event come in at one socket, and an announcement may be
old or come twice. Still each entry of a table is one of the participant that it
is listed under, each event was sent by somebody, and what goes to a peer goes
to a participant.

Main statements: `Informed.receive`, by which a datagram of a participant tells
a node nothing wrong, `Safe.step`, and `safe_of_reachable`.
-/
import LanRelay.Proofs.Bus.Handling
import LanRelay.Proofs.Bus.Kinds
import LanRelay.Proofs.Bus.Network

namespace LanRelay

namespace Network

variable {ι : Type} {members : Participants ι}
  {requested requested' : List (ι × Event)}
  {readings readings' : List (ι × Instant)}

/-! What was said. -/

/-- Somebody was asked to send the event. -/
def Requested (requested : List (ι × Event)) (event : Event) : Prop :=
  ∃ i, (i, event) ∈ requested

/-- A datagram with the announcement of a participant, or with an event that it
was asked to send. -/
inductive Genuine (members : Participants ι) (requested : List (ι × Event)) :
    Parcel → Prop where
  | presence (i : ι) (now : Instant) {bytes : Bytes}
      (hencode : ((members.node i).announcement now).encode = .ok bytes) :
      Genuine members requested ⟨members.presence i, .group, bytes⟩
  | announcement (i j : ι) (now : Instant) {bytes : Bytes}
      (hencode : ((members.node i).announcement now).encode = .ok bytes) :
      Genuine members requested
        ⟨members.address i, .peer (members.address j), bytes⟩
  | event (i j : ι) (event : Event) {bytes : Bytes}
      (hrequested : (i, event) ∈ requested)
      (hencode : event.encode = .ok bytes) :
      Genuine members requested
        ⟨members.address i, .peer (members.address j), bytes⟩

/-- An entry is the one of a participant, with a receive time from the clock of
the holder. -/
structure TellsOf (members : Participants ι) (readings : List (ι × Instant))
    (holder i : ι) (key : Endpoint) (entry : Announcement) : Prop where
  key_eq : key = members.presence i
  host : entry.host = (members.address i).ip.render
  port : entry.port = (members.address i).port
  service : entry.service = (members.settings i).service
  received : ∃ t, (holder, t) ∈ readings ∧
    entry.receivedAt = some (.ofInstant t)

/-- A participant knows of nobody and nothing but what was said. -/
structure Informed (members : Participants ι) (requested : List (ι × Event))
    (readings : List (ι × Instant)) (holder : ι) (node : Node) : Prop where
  settings : node.settings = members.settings holder
  address : node.address = members.address holder
  entries : ∀ key entry, node.table.get? key = some entry →
    ∃ i, TellsOf members readings holder i key entry
  latest : ∀ name event, node.latest.get? name = some event →
    event.name = name ∧ Requested requested event
  queued : ∀ event ∈ node.queued, Requested requested event

theorem Requested.mono {event : Event} (h : Requested requested event)
    (hmore : requested ⊆ requested') : Requested requested' event :=
  h.imp fun _ hmem => hmore hmem

theorem Genuine.mono {parcel : Parcel} (h : Genuine members requested parcel)
    (hmore : requested ⊆ requested') : Genuine members requested' parcel := by
  cases h with
  | presence i now hencode => exact .presence i now hencode
  | announcement i j now hencode => exact .announcement i j now hencode
  | event i j event hrequested hencode =>
      exact .event i j event (hmore hrequested) hencode

theorem TellsOf.mono {holder i : ι} {key : Endpoint} {entry : Announcement}
    (h : TellsOf members readings holder i key entry)
    (hmore : readings ⊆ readings') :
    TellsOf members readings' holder i key entry :=
  { h with received := h.received.imp fun _ ht => ht.imp_left (hmore ·) }

/-! What the datagrams of participants hold. -/

/-- An encoding fits into a datagram. -/
theorem take_of_bounded {what : String} {wire bytes : Bytes}
    (h : bounded what wire = .ok bytes) : bytes.take maxDatagram = bytes := by
  obtain ⟨rfl, hfits⟩ := length_le_of_bounded h
  exact List.take_of_length_le hfits

namespace Genuine

variable {parcel : Parcel}

/-- Nothing of a datagram is cut off. -/
theorem take_bytes (h : Genuine members requested parcel) :
    parcel.bytes.take maxDatagram = parcel.bytes := by
  cases h with
  | presence i now hencode => exact take_of_bounded hencode
  | announcement i j now hencode => exact take_of_bounded hencode
  | event i j event hrequested hencode => exact take_of_bounded hencode

/-- What comes in at a presence socket is the announcement of the participant
that it comes from. -/
theorem exists_of_group (h : Genuine members requested parcel)
    (hgroup : parcel.destination = .group) :
    ∃ i now, parcel.source = members.presence i ∧
      Announcement.decode parcel.bytes =
        .ok ((members.node i).announcement now) := by
  cases h with
  | presence i now hencode =>
      exact ⟨i, now, rfl, Announcement.faithful.readBack hencode⟩
  | announcement => cases hgroup
  | event => cases hgroup

/-- An event that comes in at an event socket was asked to be sent. -/
theorem requested_of_decode {event : Event} {target : Endpoint}
    (h : Genuine members requested parcel)
    (hpeer : parcel.destination = .peer target)
    (hdecode : Datagram.decode parcel.bytes = .ok (.event event)) :
    Requested requested event := by
  cases h with
  | presence => cases hpeer
  | announcement i j now hencode =>
      rw [Datagram.decode_announcement (members.port_ne_zero i) hencode]
        at hdecode
      cases hdecode
  | event i j sent hrequested hencode =>
      rw [Datagram.decode_event hencode] at hdecode
      cases hdecode
      exact ⟨i, hrequested⟩

end Genuine

/-! What a node does with its knowledge. -/

namespace Informed

variable {holder : ι} {node : Node}

theorem mono (h : Informed members requested readings holder node)
    (hrequested : requested ⊆ requested') (hreadings : readings ⊆ readings') :
    Informed members requested' readings' holder node where
  settings := h.settings
  address := h.address
  entries key entry hentry :=
    (h.entries key entry hentry).imp fun _ htells => htells.mono hreadings
  latest name event hevent :=
    (h.latest name event hevent).imp_right (·.mono hrequested)
  queued event hevent := (h.queued event hevent).mono hrequested

theorem sweep (h : Informed members requested readings holder node)
    (now : Instant) :
    Informed members requested readings holder (node.sweep now) where
  settings := h.settings
  address := h.address
  entries key entry hentry := by
    simp only [Node.sweep, PeerTable.sweep, Keyed.get?_keepIf,
      Option.filter_eq_some_iff] at hentry
    exact h.entries key entry hentry.1
  latest := h.latest
  queued := h.queued

/-- A queue from which some events have been taken. -/
theorem withDelivery (h : Informed members requested readings holder node)
    {queue queue' : Queue Event} (hdelivery : node.delivery = some queue)
    (hfewer : queue'.items.Sublist queue.items) :
    Informed members requested readings holder
      { node with delivery := some queue' } where
  settings := h.settings
  address := h.address
  entries := h.entries
  latest := h.latest
  queued event hevent := h.queued event (by
    simpa [Node.queued, hdelivery] using hfewer.subset hevent)

theorem recordPeer (h : Informed members requested readings holder node)
    {now : Instant} (hnow : (holder, now) ∈ readings) (i : ι) (at_ : Instant) :
    Informed members requested readings holder
      (node.recordPeer (members.presence i) ((members.node i).announcement at_)
        now) where
  settings := h.settings
  address := h.address
  entries key entry hentry := by
    simp only [Node.recordPeer, Keyed.get?_put] at hentry
    split at hentry
    · rename_i hkey
      cases hentry
      exact ⟨i, hkey, rfl, rfl, rfl, now, hnow, rfl⟩
    · exact h.entries key entry hentry
  latest := h.latest
  queued := h.queued

theorem refreshPeer (h : Informed members requested readings holder node)
    {now : Instant} (hnow : (holder, now) ∈ readings) (source : Endpoint)
    (announcement : Announcement) :
    Informed members requested readings holder
      (node.refreshPeer source announcement now) where
  settings := h.settings
  address := h.address
  entries key entry hentry := by
    simp only [Node.refreshPeer, PeerTable.refresh, Keyed.get?_mapValues,
      Option.map_eq_some_iff] at hentry
    obtain ⟨old, hold, rfl⟩ := hentry
    obtain ⟨i, htells⟩ := h.entries key old hold
    refine ⟨i, ?_⟩
    split
    · exact { htells with received := ⟨now, hnow, rfl⟩ }
    · exact htells
  latest := h.latest
  queued := h.queued

theorem recordEvent (h : Informed members requested readings holder node)
    {event : Event} (hevent : Requested requested event) :
    Informed members requested readings holder (node.recordEvent event) := by
  obtain ⟨delivery, tally, hrecord⟩ := node.recordEvent_eq event
  refine ⟨?_, ?_, ?_, ?_, ?_⟩
  · rw [hrecord]
    exact h.settings
  · rw [hrecord]
    exact h.address
  · rw [hrecord]
    exact h.entries
  · intro name other hother
    rw [hrecord, Keyed.get?_put] at hother
    split at hother
    · rename_i hname
      cases hother
      exact ⟨hname.symm, hevent⟩
    · exact h.latest name other hother
  · intro other hother
    rcases Node.queued_deliver _ event with heq | heq <;>
      rw [Node.recordEvent, heq] at hother
    · exact h.queued other hother
    · rcases List.mem_append.mp hother with hold | hnew
      · exact h.queued other hold
      · rwa [List.mem_singleton.mp hnew]

/-- A datagram of a participant tells a node nothing wrong. -/
theorem receive (h : Informed members requested readings holder node)
    {parcel : Parcel} (hgenuine : Genuine members requested parcel)
    {channel : BusChannel}
    (hsocket : parcel.destination = members.socket holder channel)
    {now : Instant} (hnow : (holder, now) ∈ readings) :
    Informed members requested readings holder
      (node.receive channel parcel.bytes parcel.source now) := by
  have hhears := node.hear_spec ⟨channel, parcel.bytes, parcel.source, now⟩
  rw [Node.receive, hgenuine.take_bytes]
  change Informed members requested readings holder
    (node.hear ⟨channel, parcel.bytes, parcel.source, now⟩)
  generalize node.hear _ = node' at hhears ⊢
  cases hhears with
  | peer announcement hannounces =>
      obtain ⟨rfl, hdecode⟩ := hannounces
      obtain ⟨i, at_, hsource, hread⟩ := hgenuine.exists_of_group hsocket
      rw [hread] at hdecode
      cases hdecode
      rw [hsource]
      exact h.recordPeer hnow i at_
  | refresh announcement hrefreshes =>
      exact h.refreshPeer hnow parcel.source announcement
  | event event htells =>
      obtain ⟨rfl, hdecode⟩ := htells
      exact h.recordEvent (hgenuine.requested_of_decode hsocket hdecode)
  | malformed fault hfault =>
      exact ⟨h.settings, h.address, h.entries, h.latest, h.queued⟩

/-- Every target is the event socket of a participant. -/
theorem exists_of_mem_targets
    (h : Informed members requested readings holder node) {now : Instant}
    {target : Endpoint} (htarget : target ∈ node.targets now) :
    ∃ i, target = members.address i := by
  rw [Node.targets, h.settings, members.toSourceHost] at htarget
  obtain ⟨key, entry, hentry, -, -, rfl⟩ :=
    PeerTable.exists_of_mem_liveTargets htarget
  obtain ⟨i, htells⟩ := h.entries key entry hentry
  refine ⟨i, ?_⟩
  rw [htells.key_eq, htells.port, ← members.address_eq]

/-- All that a node sends when it announces itself is its announcement. -/
theorem announce (h : Informed members requested readings holder node)
    (now : Instant) :
    Informed members requested readings holder (node.announce now).1 ∧
      ∀ parcel ∈ (node.announce now).2,
        Genuine members requested (members.parcel holder parcel) := by
  have hannounces := node.announce_spec now
  have hsame : node.announcement now =
      (members.node holder).announcement now := by
    rw [Node.announcement, h.settings, h.address]
    rfl
  generalize node.announce now = result at hannounces ⊢
  cases hannounces with
  | silent fault hfault =>
      exact ⟨h, fun _ hparcel => absurd hparcel List.not_mem_nil⟩
  | announced bytes hbytes =>
      rw [hsame] at hbytes
      refine ⟨h.sweep now, fun parcel hparcel => ?_⟩
      rcases List.mem_cons.mp hparcel with rfl | hparcel
      · exact .presence holder now hbytes
      · obtain ⟨target, htarget, rfl⟩ := List.mem_map.mp hparcel
        obtain ⟨j, rfl⟩ := (h.sweep now).exists_of_mem_targets htarget
        exact .announcement holder j now hbytes

/-- All that a node sends for an event is that event. -/
theorem send (h : Informed members requested readings holder node)
    {event : Event} (hevent : (holder, event) ∈ requested) (now : Instant)
    (reaches : Endpoint → Bool) :
    Informed members requested readings holder
        (node.send event now reaches).1 ∧
      ∀ parcel ∈ outgoing (node.send event now reaches).2,
        Genuine members requested (members.parcel holder parcel) := by
  constructor
  · obtain ⟨tally, hsend⟩ := node.send_fst event now reaches
    rw [hsend]
    exact ⟨h.settings, h.address, h.entries, h.latest, h.queued⟩
  · intro parcel hparcel
    cases hresult : (node.send event now reaches).2 with
    | error fault =>
        rw [hresult] at hparcel
        exact absurd hparcel List.not_mem_nil
    | ok result =>
        rw [hresult] at hparcel
        obtain ⟨bytes, hencode, -, hsent⟩ := Node.eq_of_send_eq_ok hresult
        rw [outgoing, hsent] at hparcel
        obtain ⟨target, htarget, rfl⟩ := List.mem_map.mp hparcel
        obtain ⟨j, rfl⟩ :=
          h.exists_of_mem_targets (List.mem_filter.mp htarget).1
        exact .event holder j event hevent hencode

end Informed

/-! The network. -/

/-- Only participants have sent datagrams, and everybody knows only what was
said. -/
structure Safe (members : Participants ι) (net : Network ι) : Prop where
  nodes : ∀ i, Informed members net.requested net.readings i (net.nodes i)
  sent : ∀ parcel ∈ net.sent, Genuine members net.requested parcel

theorem safe_initial (members : Participants ι) :
    Safe members (initial members) where
  nodes i := by
    refine ⟨rfl, rfl, fun _ _ hentry => ?_, fun _ _ hevent => ?_,
      fun event hevent => ?_⟩
    · cases hentry
    · cases hevent
    · cases hroom : members.room i <;>
        simp [initial, Node.queued, Participants.node, hroom] at hevent
  sent _ hparcel := absurd hparcel List.not_mem_nil

/-- What has been sent stays genuine, if what is sent next is. -/
theorem genuine_append {sent : List Parcel} {i : ι}
    {outgoing : List (Node.Destination × Bytes)}
    (hsent : ∀ parcel ∈ sent, Genuine members requested parcel)
    (houtgoing : ∀ parcel ∈ outgoing,
      Genuine members requested (members.parcel i parcel)) :
    ∀ parcel ∈ sent ++ outgoing.map (members.parcel i),
      Genuine members requested parcel := by
  intro parcel hparcel
  rcases List.mem_append.mp hparcel with hold | hnew
  · exact hsent parcel hold
  · obtain ⟨parcel, hmem, rfl⟩ := List.mem_map.mp hnew
    exact houtgoing parcel hmem

variable [DecidableEq ι]

/-- What is known stays so, if it does for the one node that changes. -/
theorem informed_update {nodes : ι → Node} {i : ι} {node : Node}
    (hnodes : ∀ j, Informed members requested readings j (nodes j))
    (hnode : Informed members requested readings i node) (j : ι) :
    Informed members requested readings j (Function.update nodes i node j) := by
  rw [Function.update_apply]
  split
  · rename_i hsame
    rw [hsame]
    exact hnode
  · exact hnodes j

theorem Safe.step {net net' : Network ι} (h : Safe members net)
    (hstep : Step members net net') : Safe members net' := by
  cases hstep with
  | announce i now =>
      obtain ⟨hnode, hparcels⟩ := (h.nodes i).announce now
      exact ⟨informed_update h.nodes hnode, genuine_append h.sent hparcels⟩
  | send i event now reaches =>
      have hmore : net.requested ⊆ net.requested ++ [(i, event)] :=
        List.subset_append_left ..
      have hnodes j := (h.nodes j).mono hmore (List.Subset.refl _)
      obtain ⟨hnode, hparcels⟩ := (hnodes i).send
        (List.mem_append_right _ List.mem_cons_self) now reaches
      exact ⟨informed_update hnodes hnode, genuine_append
        (fun parcel hparcel => (h.sent parcel hparcel).mono hmore) hparcels⟩
  | receive i channel parcel now hsent hsocket =>
      have hmore : net.readings ⊆ net.readings ++ [(i, now)] :=
        List.subset_append_left ..
      have hnodes j := (h.nodes j).mono (List.Subset.refl _) hmore
      exact ⟨informed_update hnodes ((hnodes i).receive (h.sent parcel hsent)
        hsocket (List.mem_append_right _ List.mem_cons_self)), h.sent⟩
  | take i queue hdelivery =>
      exact ⟨informed_update h.nodes ((h.nodes i).withDelivery hdelivery
        queue.receive_items_sublist), h.sent⟩
  | closeQueue i queue hdelivery =>
      exact ⟨informed_update h.nodes ((h.nodes i).withDelivery hdelivery
        (List.Sublist.refl _)), h.sent⟩

theorem Reachable.safe {net : Network ι} (h : Reachable members net) :
    Safe members net := by
  induction h with
  | initial => exact safe_initial members
  | step _ hstep ih => exact ih.step hstep

/-- Whatever the network does with the datagrams, every event that is held was
asked to be sent, every entry is the one of the participant that it is listed
under and the only one for its event socket, and what goes to a peer goes to
the event socket of a participant. -/
theorem safe_of_reachable {net : Network ι} (h : Reachable members net) :
    (∀ i name event, (net.nodes i).latest.get? name = some event →
      event.name = name ∧ ∃ j, (j, event) ∈ net.requested) ∧
    (∀ i, ∀ event ∈ (net.nodes i).queued, ∃ j, (j, event) ∈ net.requested) ∧
    (∀ i key entry, (net.nodes i).table.get? key = some entry →
      ∃ j, TellsOf members net.readings i j key entry) ∧
    (∀ i key key' entry entry',
      (net.nodes i).table.get? key = some entry →
      (net.nodes i).table.get? key' = some entry' →
      key.ip = key'.ip → entry.port = entry'.port → key = key') ∧
    (∀ parcel ∈ net.sent, ∀ target, parcel.destination = .peer target →
      ∃ j, target = members.address j) ∧
    ∀ i now, ∀ target ∈ (net.nodes i).targets now,
      ∃ j, target = members.address j := by
  have hsafe := h.safe
  refine ⟨fun i => (hsafe.nodes i).latest, fun i => (hsafe.nodes i).queued,
    fun i => (hsafe.nodes i).entries, ?_, ?_,
    fun i now target => (hsafe.nodes i).exists_of_mem_targets⟩
  · intro i key key' entry entry' hentry hentry' hip hport
    obtain ⟨j, hj⟩ := (hsafe.nodes i).entries key entry hentry
    obtain ⟨k, hk⟩ := (hsafe.nodes i).entries key' entry' hentry'
    have haddress : members.address j = members.address k := by
      rw [members.address_eq j, members.address_eq k, ← hj.key_eq, ← hk.key_eq,
        hip, ← hj.port, ← hk.port, hport]
    rw [hj.key_eq, hk.key_eq, members.address_injective haddress]
  · intro parcel hparcel target htarget
    cases hsafe.sent parcel hparcel with
    | presence => cases htarget
    | announcement i j now hencode =>
        exact ⟨j, (Node.Destination.peer.inj htarget).symm⟩
    | event i j event hrequested hencode =>
        exact ⟨j, (Node.Destination.peer.inj htarget).symm⟩

/-! Two participants, and an event that gets through. -/

def sampleIp (i : Bool) : Ipv4 := ⟨10, 0, 0, if i then 2 else 1⟩

def samplePair : Participants Bool where
  settings _ := { service := "" }
  presence i := .v4 ⟨sampleIp i, 9000⟩
  address i := .v4 ⟨sampleIp i, 5000⟩
  room _ := some 8
  toSourceHost _ := rfl
  address_eq _ := rfl
  port_ne_zero := by decide
  presence_injective := by decide
  address_injective := by decide

def sampleEvent : Event := ⟨"n", .zero, .raw []⟩

/-- One announces itself; the other hears of it, and sends it an event. -/
theorem safe_of_sample_run :
    ∃ net, Reachable samplePair net ∧
      (net.nodes false).table.keys = [samplePair.presence true] ∧
      (net.nodes true).latest.get? "n" = some sampleEvent ∧
      (net.nodes true).queued = [sampleEvent] ∧
      ∃ j, (j, sampleEvent) ∈ net.requested := by
  have hinitial : Reachable samplePair (initial samplePair) := .initial
  have hannounced := hinitial.step (.announce true ⟨0⟩)
  have hheard := hannounced.step
    (.receive false .presence ⟨samplePair.presence true, .group,
      [10, 8, 49, 48, 46, 48, 46, 48, 46, 50, 16, 136, 39, 34, 0]⟩
      ⟨1000000000⟩ (by decide +kernel) rfl)
  have hsent := hheard.step
    (.send false sampleEvent ⟨2000000000⟩ fun _ => true)
  have hreceived := hsent.step
    (.receive true .events ⟨samplePair.address false,
      .peer (samplePair.address true), [10, 0, 18, 1, 110, 26, 0]⟩
      ⟨500000000⟩ (by decide +kernel) rfl)
  have hlatest := (safe_of_reachable hreceived).1 true "n" sampleEvent
    (by decide +kernel)
  exact ⟨_, hreceived, by decide +kernel, by decide +kernel,
    by decide +kernel, hlatest.2⟩

end Network

end LanRelay
