/-
What a node remembers of the events that it takes, and what it hands on.

Both come of one stream, the events in the order in which they arrive. Of each
name the last one is remembered, whatever its stamp. The queue takes those for
which it has room, and whoever they are handed on to takes them out of it, or
closes it, at any time.

Main statements: `EventLife.Follows.act`, by which every act keeps what is
remembered, handed on and counted in step with the arrivals, and
`state_and_delivery_follow_arrivals`.
-/
import LanRelay.Proofs.Bus.Handling

namespace LanRelay

/-- What is done to a node and to the queue of its events. -/
inductive EventAct where
  /-- A datagram of any length comes in. -/
  | arrive (datagram : Heard)
  | announce (now : Instant)
  | send (event : Event) (now : Instant) (reaches : Endpoint → Bool)
  /-- Whoever events are handed on to takes the next one. -/
  | take
  | closeQueue

namespace EventAct

/-- The event that a node reads from what it sees of a datagram. -/
def event? : EventAct → Option Event
  | arrive datagram =>
      match Node.readDatagram (datagram.bytes.take maxDatagram)
          datagram.channel with
      | .ok (.event event) => some event
      | _ => none
  | announce _ | send .. | take | closeQueue => none

end EventAct

namespace Node

/-- Whoever events are handed on to takes the next one. -/
def takeEvent (node : Node) : Node × Option Event :=
  match node.delivery with
  | none => (node, none)
  | some queue =>
      let (queue, event?) := queue.receive
      ({ node with delivery := some queue }, event?)

def closeQueue (node : Node) : Node :=
  { node with delivery := node.delivery.map Queue.close }

/-- There is a queue, and it takes events. -/
def handsOn (node : Node) : Bool := node.delivery.any (·.isOpen)

/-- Nothing has changed that is about events that come in. -/
structure SameEvents (node later : Node) : Prop where
  latest : later.latest = node.latest
  delivery : later.delivery = node.delivery
  received : later.tally.get .eventsReceived = node.tally.get .eventsReceived
  dropped : later.tally.get .eventsDropped = node.tally.get .eventsDropped

variable {node : Node}

/-- What is not read as an event is nothing to the events. -/
theorem sameEvents_receive {datagram : Heard}
    (h : (EventAct.arrive datagram).event? = none) :
    node.SameEvents (node.receive datagram.channel datagram.bytes
      datagram.source datagram.now) := by
  have hhears := node.hear_spec
    { datagram with bytes := datagram.bytes.take maxDatagram }
  rw [show node.receive _ _ _ _ = node.hear
    { datagram with bytes := datagram.bytes.take maxDatagram } from rfl]
  generalize node.hear _ = later at hhears ⊢
  cases hhears with
  | peer announcement hannounces =>
      exact ⟨rfl, rfl, by simp [recordPeer, Tally.get_count],
        by simp [recordPeer, Tally.get_count]⟩
  | refresh announcement hrefreshes => exact ⟨rfl, rfl, rfl, rfl⟩
  | event event htells =>
      rw [EventAct.event?, show datagram.channel = _ from htells.1,
        readDatagram, htells.2] at h
      cases h
  | malformed fault hfault =>
      exact ⟨rfl, rfl, by simp [Tally.get_count], by simp [Tally.get_count]⟩

theorem receive_of_event {datagram : Heard} {event : Event}
    (h : (EventAct.arrive datagram).event? = some event) :
    node.receive datagram.channel datagram.bytes datagram.source
      datagram.now = node.recordEvent event := by
  obtain ⟨channel, bytes, source, now⟩ := datagram
  simp only [EventAct.event?] at h
  simp only [receive, handle]
  split at h
  · rename_i event' hread
    cases h
    rw [hread]
    cases channel with
    | events => rfl
    | presence =>
        -- On the presence channel nothing is read as an event.
        rw [readDatagram] at hread
        cases hdecode : Announcement.decode (bytes.take maxDatagram) <;>
          rw [hdecode] at hread <;> cases hread
  · cases h

theorem sameEvents_announce (now : Instant) :
    node.SameEvents (node.announce now).1 := by
  have hannounces := node.announce_spec now
  generalize node.announce now = result at hannounces ⊢
  cases hannounces with
  | silent fault hfault => exact ⟨rfl, rfl, rfl, rfl⟩
  | announced bytes hbytes =>
      exact ⟨rfl, rfl, by simp [sweep, Tally.get_add],
        by simp [sweep, Tally.get_add]⟩

theorem sameEvents_send (event : Event) (now : Instant)
    (reaches : Endpoint → Bool) :
    node.SameEvents (node.send event now reaches).1 := by
  unfold send
  split
  · exact ⟨rfl, rfl, rfl, rfl⟩
  · exact ⟨rfl, rfl, by simp [Tally.get_add], by simp [Tally.get_add]⟩

/-! An event that comes in, by the state of the queue. -/

variable {queue : Queue Event}

theorem recordEvent_of_closed (event : Event)
    (hqueue : node.delivery = some queue) (hopen : queue.isOpen = false) :
    node.recordEvent event = { node with
      latest := node.latest.put event.name event
      tally := node.tally.count .eventsReceived } := by
  simp [recordEvent, deliver, hqueue, Queue.trySend, hopen]

theorem recordEvent_of_room (event : Event)
    (hqueue : node.delivery = some queue) (hopen : queue.isOpen = true)
    (hroom : queue.size < queue.capacity) :
    node.recordEvent event = { node with
      latest := node.latest.put event.name event
      delivery := some { queue with items := queue.items ++ [event] }
      tally := node.tally.count .eventsReceived } := by
  simp [recordEvent, deliver, hqueue, Queue.trySend, hopen, hroom]

theorem recordEvent_of_full (event : Event)
    (hqueue : node.delivery = some queue) (hopen : queue.isOpen = true)
    (hfull : queue.capacity ≤ queue.size) :
    node.recordEvent event = { node with
      latest := node.latest.put event.name event
      tally := (node.tally.count .eventsReceived).count .eventsDropped } := by
  simp [recordEvent, deliver, hqueue, Queue.trySend, hopen,
    Nat.not_lt.mpr hfull]

end Node

/-- A node, and what was taken out of its queue of events. -/
structure EventLife where
  node : Node
  taken : List Event := []

namespace EventLife

/-- A node that has heard of nothing, with an empty queue for its events. -/
def start (settings : BusSettings) (address : Endpoint) (capacity : Nat) :
    EventLife where
  node := { settings, address, delivery := some { capacity } }

def act (life : EventLife) : EventAct → EventLife
  | .arrive datagram =>
      { life with
        node := life.node.receive datagram.channel datagram.bytes
          datagram.source datagram.now }
  | .announce now => { life with node := (life.node.announce now).1 }
  | .send event now reaches =>
      { life with node := (life.node.send event now reaches).1 }
  | .take =>
      let (node, event?) := life.node.takeEvent
      { node, taken := life.taken ++ event?.toList }
  | .closeQueue => { life with node := life.node.closeQueue }

def run (life : EventLife) (acts : List EventAct) : EventLife :=
  acts.foldl act life

/-- What was taken, followed by what is still queued. -/
def handedOn (life : EventLife) : List Event := life.taken ++ life.node.queued

/-- What is remembered, handed on and counted is in step with the events that
have arrived. -/
structure Follows (capacity : Nat) (arrived : List Event) (life : EventLife) :
    Prop where
  latest : ∀ name, life.node.latest.get? name =
    (arrived.filter (·.name = name)).getLast?
  received : life.node.tally.get .eventsReceived = arrived.length
  order : life.handedOn.Sublist arrived
  queue : ∃ queue, life.node.delivery = some queue ∧
    queue.capacity = capacity ∧ queue.size ≤ capacity
  count : life.node.handsOn = true → arrived.length =
    life.handedOn.length + life.node.tally.get .eventsDropped

variable {life : EventLife} {capacity : Nat} {arrived : List Event}

theorem follows_start (settings : BusSettings) (address : Endpoint)
    (capacity : Nat) : (start settings address capacity).Follows capacity []
      where
  latest _ := rfl
  received := rfl
  order := List.Sublist.refl _
  queue := ⟨_, rfl, rfl, Nat.zero_le _⟩
  count _ := rfl

namespace Follows

theorem of_sameEvents (h : life.Follows capacity arrived) {node : Node}
    (hsame : life.node.SameEvents node) :
    Follows capacity arrived { life with node } where
  latest name := by rw [hsame.latest, h.latest]
  received := by rw [hsame.received, h.received]
  order := by
    rw [handedOn, Node.queued, hsame.delivery]
    exact h.order
  queue := by
    rw [hsame.delivery]
    exact h.queue
  count hopen := by
    rw [Node.handsOn, hsame.delivery] at hopen
    rw [handedOn, Node.queued, hsame.delivery, hsame.dropped]
    exact h.count hopen

/-- The event of a name that has come last is the one that has just come, or
one that came before. -/
theorem getLast?_filter_concat (arrived : List Event) (event : Event)
    (name : String) :
    ((arrived ++ [event]).filter (·.name = name)).getLast? =
      if name = event.name then some event
      else (arrived.filter (·.name = name)).getLast? := by
  rw [List.filter_append]
  by_cases hname : name = event.name
  · subst hname
    simp
  · simp [hname, Ne.symm hname]

/-- An event is remembered and counted, and queued if there is room. -/
theorem recordEvent (h : life.Follows capacity arrived) (event : Event) :
    Follows capacity (arrived ++ [event])
      { life with node := life.node.recordEvent event } := by
  obtain ⟨queue, hqueue, hcapacity, hsize⟩ := h.queue
  have hlatest (name : String) :
      (life.node.latest.put event.name event).get? name =
        ((arrived ++ [event]).filter (·.name = name)).getLast? := by
    rw [Keyed.get?_put, getLast?_filter_concat, h.latest]
  have hreceived : (life.node.tally.count .eventsReceived).get
      .eventsReceived = (arrived ++ [event]).length := by
    simp [Tally.get_count, h.received]
  have horder : (life.taken ++ queue.items).Sublist arrived := by
    simpa [handedOn, Node.queued, hqueue] using h.order
  have hcount (hopen : queue.isOpen = true) : arrived.length =
      life.taken.length + queue.items.length +
        life.node.tally.get .eventsDropped := by
    simpa [handedOn, Node.queued, hqueue] using
      h.count (by simp [Node.handsOn, hqueue, hopen])
  cases hopen : queue.isOpen with
  | false =>
      rw [Node.recordEvent_of_closed event hqueue hopen]
      exact
        { latest := hlatest
          received := hreceived
          order := by
            simpa [handedOn, Node.queued, hqueue] using
              horder.trans (List.sublist_append_left ..)
          queue := ⟨queue, hqueue, hcapacity, hsize⟩
          count := fun h => by simp [Node.handsOn, hqueue, hopen] at h }
  | true =>
      rcases Nat.lt_or_ge queue.size queue.capacity with hroom | hfull
      · rw [Node.recordEvent_of_room event hqueue hopen hroom]
        exact
          { latest := hlatest
            received := hreceived
            order := by
              simpa [handedOn, Node.queued] using
                horder.append (List.Sublist.refl [event])
            queue := ⟨_, rfl, hcapacity, by
              rw [Queue.size, List.length_append, ← hcapacity]
              exact hroom⟩
            count := fun _ => by
              simp [handedOn, Node.queued, Tally.get_count, hcount hopen]
              omega }
      · rw [Node.recordEvent_of_full event hqueue hopen hfull]
        exact
          { latest := hlatest
            received := by simpa [Tally.get_count] using hreceived
            order := by
              simpa [handedOn, Node.queued, hqueue] using
                horder.trans (List.sublist_append_left ..)
            queue := ⟨queue, hqueue, hcapacity, hsize⟩
            count := fun _ => by
              simp [handedOn, Node.queued, hqueue, Tally.get_count,
                hcount hopen]
              omega }

/-- Taking an event out of the queue leaves what is handed on as it is. -/
theorem take (h : life.Follows capacity arrived) :
    (life.act .take).Follows capacity arrived := by
  obtain ⟨queue, hqueue, hcapacity, hsize⟩ := h.queue
  cases hitems : queue.items with
  | nil =>
      have hnode : life.node.takeEvent = (life.node, none) := by
        simp only [Node.takeEvent, hqueue, Queue.receive, hitems]
        rw [← hqueue]
      have hlife : life.act .take = life := by
        simp [EventLife.act, hnode]
      rwa [hlife]
  | cons event items =>
      have hnode : life.node.takeEvent =
          ({ life.node with delivery := some { queue with items } },
            some event) := by
        simp [Node.takeEvent, hqueue, Queue.receive, hitems]
      have hlife : life.act .take =
          { node := { life.node with delivery := some { queue with items } }
            taken := life.taken ++ [event] } := by
        simp [EventLife.act, hnode]
      have hhanded : (life.act .take).handedOn = life.handedOn := by
        simp [hlife, handedOn, Node.queued, hqueue, hitems]
      have hopen : (life.act .take).node.handsOn = life.node.handsOn := by
        simp [hlife, Node.handsOn, hqueue]
      exact
        { latest := by simpa [hlife] using h.latest
          received := by simpa [hlife] using h.received
          order := hhanded ▸ h.order
          queue := by
            refine ⟨{ queue with items }, by rw [hlife], hcapacity, ?_⟩
            simp only [Queue.size, hitems, List.length_cons] at hsize ⊢
            omega
          count := fun h' => by
            rw [hhanded, hlife]
            exact h.count (hopen ▸ h') }

theorem closeQueue (h : life.Follows capacity arrived) :
    (life.act .closeQueue).Follows capacity arrived := by
  obtain ⟨queue, hqueue, hcapacity, hsize⟩ := h.queue
  have hclosed : life.node.closeQueue.delivery = some queue.close := by
    simp [Node.closeQueue, hqueue]
  have hhanded : (life.act .closeQueue).handedOn = life.handedOn := by
    simp [handedOn, EventLife.act, Node.queued, hclosed, hqueue, Queue.close]
  exact
    { latest := h.latest
      received := h.received
      order := hhanded ▸ h.order
      queue := ⟨queue.close, hclosed, hcapacity, hsize⟩
      count := fun hopen => by
        simp [EventLife.act, Node.handsOn, hclosed, Queue.close] at hopen }

theorem act (h : life.Follows capacity arrived) (act : EventAct) :
    (life.act act).Follows capacity (arrived ++ act.event?.toList) := by
  have hnone {later : EventLife} (hlater : later.Follows capacity arrived) :
      later.Follows capacity (arrived ++ (none : Option Event).toList) := by
    rwa [Option.toList_none, List.append_nil]
  cases act with
  | arrive datagram =>
      cases hevent : (EventAct.arrive datagram).event? with
      | none => exact hnone (h.of_sameEvents (Node.sameEvents_receive hevent))
      | some event =>
          rw [EventLife.act, Node.receive_of_event hevent]
          exact h.recordEvent event
  | announce now => exact hnone (h.of_sameEvents (Node.sameEvents_announce now))
  | send event now reaches =>
      exact hnone (h.of_sameEvents (Node.sameEvents_send event now reaches))
  | take => exact hnone h.take
  | closeQueue => exact hnone h.closeQueue

theorem run (h : life.Follows capacity arrived) (acts : List EventAct) :
    (life.run acts).Follows capacity
      (arrived ++ acts.filterMap EventAct.event?) := by
  induction acts generalizing life arrived with
  | nil => simpa [EventLife.run] using h
  | cons act acts ih =>
      have hrest := ih (h.act act)
      rw [List.append_assoc] at hrest
      cases hevent : act.event? <;>
        simpa [EventLife.run, List.filterMap_cons, hevent] using hrest

end Follows

/-- An event that comes while there is room is queued. -/
theorem Follows.queued_recordEvent (h : life.Follows capacity arrived)
    (hopen : life.node.handsOn = true)
    (hroom : life.node.queued.length < capacity) (event : Event) :
    (life.node.recordEvent event).queued = life.node.queued ++ [event] := by
  obtain ⟨queue, hqueue, rfl, -⟩ := h.queue
  rw [Node.handsOn, hqueue] at hopen
  rw [Node.queued, hqueue] at hroom
  rw [Node.recordEvent_of_room event hqueue hopen hroom]
  simp [Node.queued, hqueue]

/-- Nothing else closes the queue. -/
theorem handsOn_act {act : EventAct} (hact : act ≠ .closeQueue)
    (hopen : life.node.handsOn = true) :
    (life.act act).node.handsOn = true := by
  obtain ⟨queue, hqueue, hisOpen⟩ : ∃ queue, life.node.delivery = some queue ∧
      queue.isOpen = true := by
    simpa [Node.handsOn, Option.any_eq_true] using hopen
  have hsame {node : Node} (h : life.node.SameEvents node) :
      node.handsOn = true := by
    rwa [Node.handsOn, h.delivery]
  cases act with
  | arrive datagram =>
      cases hevent : (EventAct.arrive datagram).event? with
      | none => exact hsame (Node.sameEvents_receive hevent)
      | some event =>
          rw [act, Node.receive_of_event hevent]
          rcases Nat.lt_or_ge queue.size queue.capacity with hroom | hfull
          · rw [Node.recordEvent_of_room event hqueue hisOpen hroom]
            exact hisOpen
          · rw [Node.recordEvent_of_full event hqueue hisOpen hfull]
            exact hopen
  | announce now => exact hsame (Node.sameEvents_announce now)
  | send event now reaches => exact hsame (Node.sameEvents_send ..)
  | take =>
      cases hitems : queue.items <;>
        simp [act, Node.handsOn, Node.takeEvent, hqueue, Queue.receive, hitems,
          hisOpen]
  | closeQueue => exact absurd rfl hact

theorem handsOn_run {acts : List EventAct} (hacts : .closeQueue ∉ acts)
    (hopen : life.node.handsOn = true) :
    (life.run acts).node.handsOn = true := by
  induction acts generalizing life with
  | nil => exact hopen
  | cons act acts ih =>
      obtain ⟨hact, hacts⟩ := not_or.mp (mt List.mem_cons.mpr hacts)
      exact ih hacts (handsOn_act (Ne.symm hact) hopen)

end EventLife

open EventLife in
/-- Whatever datagrams come in, and whenever events are taken out of the queue
or it is closed: of each name the event that came last is remembered; every
event is counted; what was taken and what is still queued are, each at most
once and in that order, among the events that have come; the queue holds no
more than it has room for; while it is open, each event was taken, is queued or
was counted as dropped, and one that comes while there is room is queued. -/
theorem state_and_delivery_follow_arrivals (settings : BusSettings)
    (address : Endpoint) (capacity : Nat) (acts : List EventAct) :
    let life := (start settings address capacity).run acts
    let arrived := acts.filterMap EventAct.event?
    (∀ name, life.node.latest.get? name =
      (arrived.filter (·.name = name)).getLast?) ∧
    life.node.tally.get .eventsReceived = arrived.length ∧
    (life.taken ++ life.node.queued).Sublist arrived ∧
    life.node.queued.length ≤ capacity ∧
    (life.node.handsOn = true →
      life.node.tally.get .eventsReceived = life.taken.length +
        life.node.queued.length + life.node.tally.get .eventsDropped) ∧
    (life.node.handsOn = true → life.node.queued.length < capacity →
      ∀ datagram event, (EventAct.arrive datagram).event? = some event →
        (life.act (.arrive datagram)).node.queued =
          life.node.queued ++ [event]) ∧
    (EventAct.closeQueue ∉ acts → life.node.handsOn = true) := by
  intro life arrived
  have hfollows : life.Follows capacity arrived :=
    (follows_start settings address capacity).run acts
  refine ⟨hfollows.latest, hfollows.received, hfollows.order, ?_, ?_, ?_,
    fun hacts => handsOn_run hacts rfl⟩
  · obtain ⟨queue, hqueue, -, hsize⟩ := hfollows.queue
    rw [Node.queued, hqueue]
    exact hsize
  · intro hopen
    rw [hfollows.received, hfollows.count hopen, handedOn, List.length_append]
  · intro hopen hroom datagram event hevent
    rw [EventLife.act, Node.receive_of_event hevent]
    exact hfollows.queued_recordEvent hopen hroom event

end LanRelay
