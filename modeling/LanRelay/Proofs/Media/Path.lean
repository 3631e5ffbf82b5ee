/-
The path of the media stream in single steps, from the datagrams of the source
to the tracks of the sessions.

The reader of the source, the loop of the fan-out, the worker of each outlet,
and whoever registers and removes outlets all act on their own. Every send and
every receive on a queue is a step by itself, and any other step may come
between two of them. What comes in and what goes out is written down as it
happens; no step depends on what was written down.

Main statements: `reaches_receive` and `reaches_step?`. What the source does
with a datagram, and each step of the loop, are runs of these steps in which
nobody comes between.
-/
import LanRelay.Flow.Intake
import LanRelay.Proofs.Session.Tracks
import Mathlib.Logic.Relation

namespace LanRelay

open Rtp (Packet)

/-- Where the reader of the source is. -/
inductive MediaReader where
  | reading
  /-- It is in an offer to the queue of the source. -/
  | offering (stage : OfferStage Packet)
  | stopped

structure MediaPath where
  /-- The one stream identifier of the relay. -/
  ssrc : UInt32
  /-- What the reader does when its queue is full. -/
  policy : DropPolicy
  reader : MediaReader := .reading
  fanout : Fanout PacketSink Packet
  /-- The packet that the loop has received and has no table for yet. -/
  taken : Option Packet := none
  /-- The offer that the loop is in, to the first of the pending outlets. -/
  offer : Option (OfferStage Packet) := none
  scene : Scene := {}
  /-- All datagrams that came in. -/
  received : List Bytes := []
  /-- All packets that the loop took a table for. -/
  dispatched : List Packet := []
  /-- How many packets had been dispatched when an outlet for the track of a
  session was registered. -/
  since : Nat → Option Nat := fun _ => none
  /-- All packets that were written to the track of a session. -/
  written : Nat → List Packet := fun _ => []

namespace MediaPath

/-- The packet that a datagram is queued as, if it is one. -/
def accepted (ssrc : UInt32) (datagram : Bytes) : Option Packet :=
  match Packet.parse (datagram.take Rtp.maxPacket) with
  | .error _ => none
  | .ok packet => some (packet.withSsrc ssrc)

/-- A path on which nothing has happened. -/
def initial (ssrc : UInt32) (policy : DropPolicy) (capacity limit : Nat) :
    MediaPath where
  ssrc := ssrc
  policy := policy
  fanout := {
    registry := { stream := .rtp }
    source := { capacity }
    limit }

def withSource (path : MediaPath) (source : Queue Packet) : MediaPath :=
  { path with fanout := { path.fanout with source } }

def withRegistry (path : MediaPath) (registry : Registry PacketSink Packet) :
    MediaPath :=
  { path with fanout := { path.fanout with registry } }

def withLoop (path : MediaPath) (loop : FanoutLoop Packet) : MediaPath :=
  { path with fanout := { path.fanout with loop := some loop } }

/-! The source. -/

/-- Take a datagram in, and offer it if it is a packet. -/
def read (path : MediaPath) (datagram : Bytes) : MediaPath :=
  { path with
    received := path.received ++ [datagram]
    reader :=
      match accepted path.ssrc datagram with
      | none => .reading
      | some packet => .offering (.start packet) }

/-- The next send or receive of an offer to the queue of the source. -/
def enqueue (path : MediaPath) (stage : OfferStage Packet) : MediaPath :=
  { path.withSource (stage.step path.policy path.fanout.source).1 with
    reader := .offering (stage.step path.policy path.fanout.source).2 }

/-- Go on after an offer, unless the queue is closed. -/
def resume (path : MediaPath) (outcome : Offer) : MediaPath :=
  { path with reader := if outcome = .closed then .stopped else .reading }

/-! The loop. -/

/-- Take the outlets that are now registered, and begin to offer a packet to
them. -/
def dispatch (path : MediaPath) (packet : Packet) : MediaPath :=
  let totals := path.fanout.totals
  { path with
    taken := none
    dispatched := path.dispatched ++ [packet]
    fanout := { path.fanout with
      loop := some (.offering packet path.fanout.registry.snapshot)
      totals := { totals with items := totals.items + 1 } } }

/-- The path when an offer to an outlet has come so far. -/
def inOffer (path : MediaPath) (number : Nat)
    (outlet : Outlet PacketSink Packet) (queue : Queue Packet)
    (stage : OfferStage Packet) : MediaPath :=
  let registry := path.fanout.registry
  { path.withRegistry { registry with
      outlets := registry.outlets.set number { outlet with queue } } with
    offer := some stage }

/-- The next send or receive of an offer to an outlet. -/
def offerTo (path : MediaPath) (number : Nat)
    (outlet : Outlet PacketSink Packet) (stage : OfferStage Packet) :
    MediaPath :=
  path.inOffer number outlet (stage.step outlet.policy outlet.queue).1
    (stage.step outlet.policy outlet.queue).2

/-- Account for an offer that is finished. -/
def account (path : MediaPath) (outcome : Offer) (id : SessionId)
    (number : Nat) (packet : Packet) (pending : List (SessionId × Nat)) :
    MediaPath :=
  let registry := path.fanout.registry.adjust number fun outlet =>
    { outlet with metrics := { outlet.metrics.record outcome with
        queued := outlet.queue.size } }
  { path with
    fanout := { path.fanout with registry }.judge outcome id number packet
      pending
    offer := none }

/-- Remove the outlet that a session has now, and go on. -/
def evict (path : MediaPath) (id : SessionId) (packet : Packet)
    (pending : List (SessionId × Nat)) : MediaPath :=
  { path with fanout := path.fanout.evict id packet pending }

/-! Workers and registrations. -/

/-- A worker has taken a step. What is new on a track was written to it. -/
def work (path : MediaPath) (fanout : Fanout PacketSink Packet)
    (scene : Scene) : MediaPath :=
  { path with
    fanout, scene
    written := fun session => path.written session ++
      (scene.media session).drop (path.scene.media session).length }

def register (path : MediaPath) (id : SessionId)
    (outlet : Outlet PacketSink Packet) : MediaPath :=
  path.withRegistry (path.fanout.registry.register id outlet).1

/-- Register an outlet for the track of a session. -/
def registerTrack (path : MediaPath) (id : SessionId) (session : Nat)
    (outlet : Outlet PacketSink Packet) : MediaPath :=
  { path.register id outlet with
    since := fun other =>
      if other = session then some path.dispatched.length
      else path.since other }

/-- The steps on the path. Queues may have any capacity and policy, and
outlets of any kind come and go under any identifier. A track is given to one
outlet only. -/
inductive Step (path : MediaPath) : MediaPath → Prop where
  | read (datagram : Bytes) (h : path.reader = .reading) :
      Step path (path.read datagram)
  | enqueue (stage : OfferStage Packet) (h : path.reader = .offering stage) :
      Step path (path.enqueue stage)
  | resume (outcome : Offer)
      (h : path.reader = .offering (.finished outcome)) :
      Step path (path.resume outcome)
  | stopReading (h : path.reader = .reading) :
      Step path { path with reader := .stopped }
  | closeSource : Step path (path.withSource path.fanout.source.close)
  | start (h : path.fanout.loop = none) :
      Step path { path with fanout := path.fanout.start }
  | take (packet : Packet) (source : Queue Packet)
      (hloop : path.fanout.loop = some .waiting) (htaken : path.taken = none)
      (h : path.fanout.source.receive = (source, some packet)) :
      Step path { path.withSource source with taken := some packet }
  | dispatch (packet : Packet) (hloop : path.fanout.loop = some .waiting)
      (htaken : path.taken = some packet) : Step path (path.dispatch packet)
  /-- The outlets of a table stand in no certain order. -/
  | reorder (packet : Packet) (pending pending' : List (SessionId × Nat))
      (hloop : path.fanout.loop = some (.offering packet pending))
      (hoffer : path.offer = none) (h : pending'.Perm pending) :
      Step path (path.withLoop (.offering packet pending'))
  | beginOffer (packet : Packet) (entry : SessionId × Nat)
      (pending : List (SessionId × Nat))
      (hloop : path.fanout.loop = some (.offering packet (entry :: pending)))
      (hoffer : path.offer = none) :
      Step path { path with offer := some (.start packet) }
  | offer (packet : Packet) (id : SessionId) (number : Nat)
      (pending : List (SessionId × Nat)) (outlet : Outlet PacketSink Packet)
      (stage : OfferStage Packet)
      (hloop : path.fanout.loop =
        some (.offering packet ((id, number) :: pending)))
      (houtlet : path.fanout.registry.outlets[number]? = some outlet)
      (hoffer : path.offer = some stage) :
      Step path (path.offerTo number outlet stage)
  | account (packet : Packet) (id : SessionId) (number : Nat)
      (pending : List (SessionId × Nat)) (outcome : Offer)
      (hloop : path.fanout.loop =
        some (.offering packet ((id, number) :: pending)))
      (hoffer : path.offer = some (.finished outcome)) :
      Step path (path.account outcome id number packet pending)
  | evict (packet : Packet) (id : SessionId)
      (pending : List (SessionId × Nat))
      (hloop : path.fanout.loop = some (.evicting id packet pending)) :
      Step path (path.evict id packet pending)
  | endPass (packet : Packet)
      (hloop : path.fanout.loop = some (.offering packet [])) :
      Step path (path.withLoop .waiting)
  | stop (hloop : path.fanout.loop = some .waiting)
      (htaken : path.taken = none) : Step path (path.withLoop .ended)
  | work (number : Nat) (fanout : Fanout PacketSink Packet) (scene : Scene)
      (h : path.fanout.work? number path.scene = some (fanout, scene)) :
      Step path (path.work fanout scene)
  | registerTrack (id : SessionId) (name : String) (capacity : Nat)
      (policy : DropPolicy) (session : Nat) (link : Link)
      (hlink : path.scene.links[session]? = some link)
      (hnew : ∀ outlet ∈ path.fanout.registry.outlets, ∀ payloadType,
        outlet.sink ≠ .track session payloadType) :
      Step path (path.registerTrack id session
        (.create name capacity policy (.track session link.terms.payloadType)))
  | registerLog (id : SessionId) (name : String) (capacity : Nat)
      (policy : DropPolicy) (items : Nat) :
      Step path (path.register id (.create name capacity policy
        (.log name items)))
  /-- Whoever removes a session takes it out of the table first, and then
  closes its outlet. -/
  | erase (id : SessionId) :
      Step path (path.withRegistry { path.fanout.registry with
        table := path.fanout.registry.table.erase id })
  | clear : Step path (path.withRegistry path.fanout.registry.clear)
  | closeOutlet (number : Nat) :
      Step path (path.withRegistry
        (path.fanout.registry.adjust number Outlet.close))
  /-- Sessions are set up, browsers take packets, and so on. -/
  | others (scene : Scene) (h : path.scene.terms <+: scene.terms) :
      Step path { path with scene }

/-- One path comes of another by any number of steps. -/
def Reaches : MediaPath → MediaPath → Prop :=
  Relation.ReflTransGen Step

theorem Step.reaches {path path' : MediaPath} (h : Step path path') :
    Reaches path path' := Relation.ReflTransGen.single h

inductive Reachable : MediaPath → Prop where
  | initial (ssrc : UInt32) (policy : DropPolicy) (capacity limit : Nat) :
      Reachable (initial ssrc policy capacity limit)
  | step {path path' : MediaPath} :
      Reachable path → Step path path' → Reachable path'

theorem Reachable.reaches {path path' : MediaPath} (h : Reachable path)
    (hrun : Reaches path path') : Reachable path' := by
  induction hrun with
  | refl => exact h
  | tail _ hstep ih => exact ih.step hstep

/-! Steps with nobody in between. -/

variable {path : MediaPath}

theorem reaches_enqueue {packet : Packet}
    (h : path.reader = .offering (.start packet)) :
    Reaches path
      { path.withSource (path.fanout.source.offer path.policy packet).1 with
        reader := .offering
          (.finished (path.fanout.source.offer path.policy packet).2) } := by
  have hthree :=
    Queue.step_step_step_start path.policy path.fanout.source packet
  have hrun : Reaches path
      (((path.enqueue (.start packet)).enqueue _).enqueue _) :=
    ((Step.enqueue _ h).reaches.tail (.enqueue _ rfl)).tail (.enqueue _ rfl)
  simpa only [enqueue, withSource, hthree] using hrun

/-- What the source does with a datagram. -/
theorem reaches_receive {intake : Intake} (datagram : Bytes)
    (hreader : path.reader = .reading)
    (hqueue : intake.packets = path.fanout.source)
    (hpolicy : intake.policy = path.policy) :
    Reaches path
      { path.withSource (intake.receive path.ssrc datagram).1.packets with
        reader :=
          if (intake.receive path.ssrc datagram).2 then .reading else .stopped
        received := path.received ++ [datagram] } := by
  have hread : Reaches path (path.read datagram) :=
    (Step.read datagram hreader).reaches
  cases hparse : Packet.parse (datagram.take Rtp.maxPacket) with
  | error fault =>
      simpa [read, accepted, Intake.receive, Intake.reject, withSource, hparse,
        hqueue] using hread
  | ok packet =>
      have hoffering : (path.read datagram).reader =
          .offering (.start (packet.withSsrc path.ssrc)) := by
        simp [read, accepted, hparse]
      have hrun : Reaches path _ :=
        (hread.trans (reaches_enqueue hoffering)).tail (.resume _ rfl)
      simp only [read, withSource, resume] at hrun
      simp only [Intake.receive, Intake.offerPacket, withSource, hparse, hqueue,
        hpolicy]
      split <;> rename_i houtcome <;> simpa [houtcome] using hrun

theorem modify_set {α : Type} (items : List α) (number : Nat) (item : α)
    (f : α → α) :
    (items.set number item).modify number f = items.set number (f item) := by
  apply List.ext_getElem?
  intro other
  by_cases h : number = other
  · subst h
    by_cases hrange : number < items.length <;> simp [hrange]
  · simp [h]

section Offer

variable {packet : Packet} {id : SessionId} {number : Nat}
  {pending : List (SessionId × Nat)} {outlet : Outlet PacketSink Packet}

theorem step_inOffer (queue : Queue Packet) (stage : OfferStage Packet)
    (hloop : path.fanout.loop =
      some (.offering packet ((id, number) :: pending)))
    (houtlet : path.fanout.registry.outlets[number]? = some outlet) :
    Step (path.inOffer number outlet queue stage)
      (path.inOffer number outlet (stage.step outlet.policy queue).1
        (stage.step outlet.policy queue).2) := by
  obtain ⟨hrange, -⟩ := List.getElem?_eq_some_iff.mp houtlet
  have hstep : Step (path.inOffer number outlet queue stage) _ :=
    .offer packet id number pending { outlet with queue } stage hloop
      (List.getElem?_set_self hrange) rfl
  simpa [offerTo, inOffer, withRegistry] using hstep

/-- What the loop does with an outlet. -/
theorem reaches_offer
    (hloop : path.fanout.loop =
      some (.offering packet ((id, number) :: pending)))
    (hoffer : path.offer = none)
    (houtlet : path.fanout.registry.outlets[number]? = some outlet) :
    Reaches path { path with
      fanout :=
        { path.fanout with
          registry := (path.fanout.registry.offer number packet).1 }.judge
        (path.fanout.registry.offer number packet).2 id number packet
        pending } := by
  have hsteps := Queue.step_step_step_start outlet.policy outlet.queue packet
  have hbegin : Reaches path
      (path.inOffer number outlet outlet.queue (.start packet)) := by
    have hsame : path.fanout.registry.outlets.set number outlet =
        path.fanout.registry.outlets := by
      obtain ⟨hrange, rfl⟩ := List.getElem?_eq_some_iff.mp houtlet
      exact List.set_getElem_self hrange
    simpa only [inOffer, withRegistry, hsame] using
      (Step.beginOffer packet (id, number) pending hloop hoffer).reaches
  -- Steps that are left over when the offer is finished early change nothing.
  have hthree : Reaches path
      (path.inOffer number outlet (outlet.queue.offer outlet.policy packet).1
        (.finished (outlet.queue.offer outlet.policy packet).2)) := by
    have hrun : Reaches path _ :=
      ((hbegin.tail (step_inOffer _ _ hloop houtlet)).tail
        (step_inOffer _ _ hloop houtlet)).tail (step_inOffer _ _ hloop houtlet)
    simpa only [hsteps] using hrun
  have hrun : Reaches path _ :=
    hthree.tail (.account packet id number pending _ hloop rfl)
  simpa [account, inOffer, withRegistry, Registry.offer, Registry.adjust,
    Outlet.offer, modify_set, houtlet, hoffer] using hrun

end Offer

/-- Whoever removes a session closes its outlet. -/
theorem reaches_unregister (path : MediaPath) (id : SessionId) :
    Reaches path
      (path.withRegistry (path.fanout.registry.unregister id).1) := by
  unfold Registry.unregister
  split
  · exact Relation.ReflTransGen.refl
  · rename_i number hnumber
    exact (Step.erase id).reaches.tail (.closeOutlet number)

/-- Each step of the loop. The packets that it takes a table for are written
down. -/
theorem reaches_step? {fanout : Fanout PacketSink Packet}
    (hoffer : path.offer = none) (htaken : path.taken = none)
    (hpending : ∀ packet pending,
      path.fanout.loop = some (.offering packet pending) →
        ∀ entry ∈ pending, entry.2 < path.fanout.registry.outlets.length)
    (h : path.fanout.step? = some fanout) :
    ∃ packets, Reaches path { path with
      fanout, dispatched := path.dispatched ++ packets } := by
  unfold Fanout.step? at h
  split at h
  · cases h
  · cases h
  · rename_i hloop
    unfold Fanout.take? at h
    split at h
    · rename_i source packet hreceive
      refine ⟨[packet], ?_⟩
      have hrun : Reaches path _ :=
        (Step.take packet source hloop htaken hreceive).reaches.tail
          (.dispatch packet hloop rfl)
      cases h
      simpa [dispatch, withSource, htaken] using hrun
    · split at h
      · cases h
      · cases h
        refine ⟨[], ?_⟩
        simpa [withLoop] using (Step.stop hloop htaken).reaches
  · rename_i packet hloop
    cases h
    refine ⟨[], ?_⟩
    simpa [withLoop] using (Step.endPass packet hloop).reaches
  · rename_i packet id number pending hloop
    have hrange := hpending packet _ hloop (id, number) List.mem_cons_self
    refine ⟨[], ?_⟩
    rw [← Option.some.inj h, List.append_nil]
    exact reaches_offer hloop hoffer (List.getElem?_eq_getElem hrange)
  · rename_i id packet pending hloop
    cases h
    refine ⟨[], ?_⟩
    simpa [evict] using (Step.evict packet id pending hloop).reaches

end MediaPath

end LanRelay
