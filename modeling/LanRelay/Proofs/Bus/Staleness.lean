/-
What a round of presence leaves in the table of a node.

Only fresh peers are left, and none of these is lost, if the announcement of
the node itself fits into a datagram. It does when its host and its service are
not too long together. A node with a service name that is too long does nothing
in its rounds, and its table keeps peers that have gone stale.

Main statement: `round_keeps_fresh_peers_only`.
-/
import LanRelay.Config.Rule
import LanRelay.Proofs.Bus.Handling
import LanRelay.Proofs.Bus.RoundTrip
import Mathlib.Algebra.Ring.Nat

namespace LanRelay

open LanRelay.Wire

/-! Freshness of an entry. -/

/-- The entry has a valid receive stamp, of at most this age. -/
def Announcement.Fresh (entry : Announcement) (now : Instant) (ttl : Span) :
    Prop :=
  ∃ ts age, entry.receivedAt = some ts ∧ ts.Valid ∧ ts.ageAt now = .ok age ∧
    age ≤ ttl

/-- Only what is valid has an age. -/
theorem Timestamp.valid_of_ageAt {ts : Timestamp} {now : Instant} {age : Span}
    (h : ts.ageAt now = .ok age) : ts.Valid := by
  obtain ⟨then_, hthen, -⟩ := bind_eq_ok_iff.mp h
  obtain ⟨_, hvalidate, -⟩ := bind_eq_ok_iff.mp hthen
  by_cases hvalid : ts.Valid
  · exact hvalid
  · rw [validate, if_neg hvalid] at hvalidate
    cases hvalidate

theorem Announcement.isLive_iff {entry : Announcement} {now : Instant}
    {ttl : Span} : entry.isLive now ttl = true ↔ entry.Fresh now ttl := by
  constructor
  · intro hlive
    obtain ⟨ts, age, hreceived, hage, hle⟩ := exists_of_isLive hlive
    exact ⟨ts, age, hreceived, Timestamp.valid_of_ageAt hage, hage, hle⟩
  · rintro ⟨ts, age, hreceived, -, hage, hle⟩
    rw [isLive, hreceived]
    simpa only [hage] using decide_eq_true hle

theorem PeerTable.get?_sweep (table : PeerTable) (now : Instant) (ttl : Span)
    {source : Endpoint} {entry : Announcement} :
    (table.sweep now ttl).get? source = some entry ↔
      table.get? source = some entry ∧ entry.Fresh now ttl := by
  rw [sweep, Keyed.get?_keepIf, Option.filter_eq_some_iff,
    Announcement.isLive_iff]

/-! The size of an announcement. -/

theorem Bytes.length_ofText_ofList (cs : List Char) :
    (ofText (String.ofList cs)).length = (cs.map Char.utf8Size).sum := by
  simp [ofText, String.toByteArray_ofList, List.utf8Encode,
    List.length_flatMap]

theorem Timestamp.length_toWire_le (ts : Timestamp) :
    ts.toWire.length ≤ 22 := by
  have hseconds : (writeNumber 1 ts.seconds.toUInt64.toNat).length ≤ 11 :=
    length_writeNumber_le (by decide)
      (Nat.lt_of_lt_of_le ts.seconds.toUInt64.toNat_lt (by decide))
  have hnanos : (writeNumber 2 ts.nanos.toInt64.toUInt64.toNat).length ≤ 11 :=
    length_writeNumber_le (by decide)
      (Nat.lt_of_lt_of_le ts.nanos.toInt64.toUInt64.toNat_lt (by decide))
  rw [toWire, List.length_append]
  omega

/-- How many bytes an announcement may take besides its host and service. -/
def Announcement.overhead : Nat := 34

/-- An announcement that has yet to be received fits into a datagram if there
is room for its host, its service, and everything else. -/
theorem Announcement.length_toWire_le {announcement : Announcement}
    (hsent : announcement.receivedAt = none)
    (hroom : (Bytes.ofText announcement.host).length +
      (Bytes.ofText announcement.service).length + overhead ≤ maxDatagram) :
    announcement.toWire.length ≤ maxDatagram := by
  rw [overhead, maxDatagram] at hroom
  have hhost : (writeBytes 1 (Bytes.ofText announcement.host)).length ≤
      (Bytes.ofText announcement.host).length + 3 :=
    length_writeBytes_le (by decide) (by omega)
  have hport : (writeNumber 2 announcement.port.toNat).length ≤ 4 :=
    length_writeNumber_le (by decide)
      (Nat.lt_of_lt_of_le announcement.port.toNat_lt (by decide))
  have hservice : (writeBytes 3 (Bytes.ofText announcement.service)).length ≤
      (Bytes.ofText announcement.service).length + 3 :=
    length_writeBytes_le (by decide) (by omega)
  have hstamp := announcement.sentAt.length_toWire_le
  have hinner : (writeDelimited 4 announcement.sentAt.toWire).length ≤
      announcement.sentAt.toWire.length + 2 :=
    length_writeDelimited_le (by decide) (by omega)
  rw [toWire, hsent, maxDatagram]
  simp only [List.length_append, List.length_nil]
  omega

theorem Announcement.service_le_length_toWire (announcement : Announcement) :
    (Bytes.ofText announcement.service).length ≤
      announcement.toWire.length := by
  have hservice := length_le_writeBytes 3 (Bytes.ofText announcement.service)
  rw [toWire]
  simp only [List.length_append]
  omega

namespace Node

/-! Rounds of presence. -/

/-- A node whose announcement fits into a datagram removes the stale peers. -/
theorem announce_fst_of_le {node : Node} {now : Instant}
    (h : (node.announcement now).toWire.length ≤ maxDatagram) :
    (node.announce now).1 = node.sweep now := by
  have hencode : (node.announcement now).encode = .ok _ := bounded_of_le h
  rw [announce, hencode]

theorem announce_of_gt {node : Node} {now : Instant}
    (h : maxDatagram < (node.announcement now).toWire.length) :
    node.announce now = (node, []) := by
  have hencode : (node.announcement now).encode = .error _ := bounded_of_gt h
  rw [announce, hencode]

theorem run_concat (node : Node) (acts : List NodeAct) (act : NodeAct) :
    node.run (acts ++ [act]) = (node.run acts).act act := by
  rw [run, List.foldl_append]
  rfl

end Node

/-- After a round for which its announcement fits into a datagram a node has
those of its peers left that are fresh, and no others. A longer announcement is
not sent, and the round changes nothing; none is longer if the host and the
service of the node leave room for the rest. -/
theorem round_keeps_fresh_peers_only (node : Node) (acts : List NodeAct)
    (now : Instant) :
    let earlier := node.run acts
    let later := node.run (acts ++ [.announce now])
    ((earlier.announcement now).toWire.length ≤ maxDatagram →
      ∀ source entry, later.table.get? source = some entry ↔
        earlier.table.get? source = some entry ∧
          entry.Fresh now node.ttl) ∧
    (maxDatagram < (earlier.announcement now).toWire.length →
      later = earlier ∧ (earlier.announce now).2 = []) ∧
    ((Bytes.ofText node.address.ip.render).length +
        (Bytes.ofText node.settings.service).length + Announcement.overhead ≤
          maxDatagram →
      (earlier.announcement now).toWire.length ≤ maxDatagram) := by
  intro earlier later
  obtain ⟨hsettings, haddress⟩ := node.setup_run acts
  have hlater : later = (earlier.announce now).1 := node.run_concat acts _
  refine ⟨?_, ?_, ?_⟩
  · intro hfits source entry
    have httl : earlier.ttl = node.ttl := by rw [Node.ttl, hsettings, Node.ttl]
    rw [hlater, Node.announce_fst_of_le hfits, ← httl]
    exact PeerTable.get?_sweep ..
  · intro hlong
    rw [hlater, Node.announce_of_gt hlong]
    exact ⟨rfl, rfl⟩
  · intro hroom
    apply Announcement.length_toWire_le rfl
    rw [Node.announcement, haddress, hsettings]
    exact hroom

/-! A node that hears of a peer once, under service names of any length. -/

/-- The default configuration with a service name of so many letters. -/
def blueprintNamed (length : Nat) : Blueprint where
  bus := { service := String.ofList (List.replicate length 'x') }

def nodeNamed (length : Nat) : Node where
  settings := (blueprintNamed length).bus
  address := .v4 ⟨⟨10, 0, 0, 1⟩, 7000⟩

def visitor : Endpoint := .v4 ⟨⟨10, 0, 0, 5⟩, 10000⟩

def visitorAnnouncement : Announcement := ⟨"h", 5000, "", .zero, none⟩

def visit : NodeAct :=
  .hear ⟨.presence, visitorAnnouncement.toWire, visitor, ⟨0⟩⟩ (by decide)

theorem length_service_named (length : Nat) :
    (Bytes.ofText (blueprintNamed length).bus.service).length = length := by
  rw [blueprintNamed, Bytes.length_ofText_ofList, List.map_replicate,
    List.sum_replicate_nat]
  exact Nat.mul_one length

/-- Under a name that is longer than a datagram the node does not announce
itself, whatever it has done. -/
theorem length_announcement_named {length : Nat} (h : maxDatagram < length)
    (acts : List NodeAct) (now : Instant) : maxDatagram <
      (((nodeNamed length).run acts).announcement now).toWire.length := by
  have hservice := (((nodeNamed length).run acts).announcement
    now).service_le_length_toWire
  rw [show (((nodeNamed length).run acts).announcement now).service =
    ((nodeNamed length).run acts).settings.service from rfl,
    ((nodeNamed length).setup_run acts).1,
    show (nodeNamed length).settings = (blueprintNamed length).bus from rfl,
    length_service_named] at hservice
  exact Nat.lt_of_lt_of_le h hservice

/-- All that counts about a service name is whether it is blank. -/
theorem Blueprint.breach?_service (blueprint : Blueprint) {service : String}
    (h : Text.isBlankText service =
      Text.isBlankText blueprint.bus.service) :
    Blueprint.breach? { blueprint with bus := { blueprint.bus with service } } =
      blueprint.breach? := by
  simp only [Blueprint.breach?, Blueprint.capacities, h]

/-- Any name that is not empty is accepted. -/
theorem validate_named {length : Nat} (h : 0 < length) :
    (blueprintNamed length).validate = .ok () := by
  have hservice :
      Text.isBlankText (blueprintNamed length).bus.service = false := by
    rw [blueprintNamed, Text.isBlankText, String.toList_ofList,
      List.all_replicate, if_neg (by omega)]
    decide
  have hbreach : (blueprintNamed length).breach? = none :=
    (Blueprint.breach?_service {} hservice).trans (by decide)
  rw [Blueprint.validate, hbreach]

theorem table_visit (length : Nat) :
    ((nodeNamed length).run [visit]).table.get? visitor =
      some (visitorAnnouncement.stamped (.ofInstant ⟨0⟩)) := by
  have hdecode := Announcement.decode_toWire
    (show visitorAnnouncement.toWire.length ≤ maxDatagram by decide +kernel)
  have hheard : (nodeNamed length).run [visit] =
      (nodeNamed length).recordPeer visitor visitorAnnouncement ⟨0⟩ := by
    simp only [Node.run_cons, Node.run_nil, visit, Node.act, Node.hear,
      Node.handle, Node.readDatagram, hdecode, Except.map]
  rw [hheard, Node.recordPeer, Keyed.get?_put, if_pos rfl]

/-- Twenty seconds after its announcement the peer is stale. -/
theorem not_fresh_visit (length : Nat) :
    ¬ (visitorAnnouncement.stamped (.ofInstant ⟨0⟩)).Fresh ⟨20000000000⟩
      (nodeNamed length).ttl := by
  rw [← Announcement.isLive_iff]
  show ¬ (visitorAnnouncement.stamped (.ofInstant ⟨0⟩)).isLive ⟨20000000000⟩
    (.ofMillis 10000) = true
  decide

/-- Under a short name the stale peer is removed; under a long one nothing
happens. -/
theorem round_keeps_fresh_peers_only_of_visit :
    ((nodeNamed 3).run [visit, .announce ⟨20000000000⟩]).table.get? visitor =
        none ∧
      (nodeNamed 1100).run [visit, .announce ⟨20000000000⟩] =
        (nodeNamed 1100).run [visit] := by
  obtain ⟨hsweep, -, hroom⟩ :=
    round_keeps_fresh_peers_only (nodeNamed 3) [visit] ⟨20000000000⟩
  obtain ⟨-, hsilent, -⟩ :=
    round_keeps_fresh_peers_only (nodeNamed 1100) [visit] ⟨20000000000⟩
  constructor
  · have hfits := hroom (by
      rw [show (nodeNamed 3).settings = (blueprintNamed 3).bus from rfl,
        length_service_named]
      decide +kernel)
    rw [Option.eq_none_iff_forall_ne_some]
    intro entry hentry
    obtain ⟨hearlier, hfresh⟩ := (hsweep hfits visitor entry).mp hentry
    rw [table_visit] at hearlier
    cases hearlier
    exact not_fresh_visit 3 hfresh
  · exact (hsilent (length_announcement_named (by decide) ..)).1

/-- The configuration is accepted, and yet a round leaves a peer in the table
that was heard twenty seconds ago and counts for ten. -/
theorem stale_peer_outlives_round :
    (blueprintNamed 1100).validate = .ok () ∧
      (nodeNamed 1100).settings = (blueprintNamed 1100).bus ∧
      (nodeNamed 1100).table = .empty ∧
      ∃ entry, ((nodeNamed 1100).run
          [visit, .announce ⟨20000000000⟩]).table.get? visitor = some entry ∧
        ¬ entry.Fresh ⟨20000000000⟩ (nodeNamed 1100).ttl := by
  have hsilent := Node.announce_of_gt
    (length_announcement_named (show maxDatagram < 1100 by decide) [visit]
      ⟨20000000000⟩)
  have hrun : (nodeNamed 1100).run [visit, .announce ⟨20000000000⟩] =
      (nodeNamed 1100).run [visit] := by
    refine (Node.run_concat _ [visit] _).trans ?_
    rw [Node.act, hsilent]
  refine ⟨validate_named (by decide), rfl, rfl, _, ?_, not_fresh_visit 1100⟩
  rw [hrun, table_visit]

end LanRelay
