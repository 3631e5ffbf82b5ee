/-
The fan-out of a stream: every item of its source is offered to every outlet
that is registered when the item is taken up.

The loop takes an item and the table of outlets as it then is. It offers the
item to one outlet after the other, and each of these is a step of its own, so
that outlets may be registered and removed in between. An outlet that is
closed, or that has dropped too many items in a row, is removed in a step
after its offer; what is removed is whatever the session then has.
-/
import LanRelay.Flow.Registry
import LanRelay.Stats.RunReport
import LanRelay.Stats.Tally

namespace LanRelay

/-- Where the loop of a fan-out is. -/
inductive FanoutLoop (α : Type) where
  /-- It waits for an item. -/
  | waiting
  /-- It has yet to offer an item to these outlets. -/
  | offering (item : α) (pending : List (SessionId × Nat))
  /-- It has judged the outlet of a session and is about to remove it. -/
  | evicting (id : SessionId) (item : α) (pending : List (SessionId × Nat))
  | ended
deriving Repr

structure Fanout (σ α : Type) where
  registry : Registry σ α
  source : Queue α
  /-- So many drops in a row remove an outlet; zero removes none. -/
  limit : Nat
  /-- There is none before the fan-out is started. -/
  loop : Option (FanoutLoop α) := none
  totals : Stats.DispatchTotals := {}
  tally : Tally := .none

namespace Fanout

variable {σ ω α : Type}

/-- Begin to take items. -/
def start (fanout : Fanout σ α) : Fanout σ α :=
  { fanout with loop := some .waiting, totals := {} }

/-- The loop has not been started, or it has ended. -/
def isAtRest (fanout : Fanout σ α) : Bool :=
  match fanout.loop with
  | none | some .ended => true
  | some _ => false

/-- An outlet has dropped too many items in a row. -/
def isTooSlow (fanout : Fanout σ α) (number : Nat) : Bool :=
  match fanout.registry.outlets[number]? with
  | none => false
  | some outlet =>
      0 < fanout.limit && fanout.limit ≤ outlet.metrics.consecutive

/-- Account for an offer, and say what comes next. -/
def judge (fanout : Fanout σ α) (outcome : Offer) (id : SessionId)
    (number : Nat) (item : α) (pending : List (SessionId × Nat)) :
    Fanout σ α :=
  let totals := fanout.totals
  let stream := fanout.registry.stream
  match outcome with
  | .queued =>
      { fanout with
        loop := some (.offering item pending)
        totals := { totals with delivered := totals.delivered + 1 }
        tally := fanout.tally.count (.itemsDispatched stream) }
  | .droppedOldest | .droppedNewest =>
      { fanout with
        loop := some <|
          if fanout.isTooSlow number then .evicting id item pending
          else .offering item pending
        totals := { totals with dropped := totals.dropped + 1 }
        tally := fanout.tally.count (.itemsDropped stream) }
  | .closed => { fanout with loop := some (.evicting id item pending) }

/-- Take the next item of the source with the table as it is. A closed source
with no items left ends the loop. -/
def take? (fanout : Fanout σ α) : Option (Fanout σ α) :=
  match fanout.source.receive with
  | (source, some item) =>
      some { fanout with
        source
        loop := some (.offering item fanout.registry.snapshot)
        totals := { fanout.totals with items := fanout.totals.items + 1 } }
  | (_, none) =>
      if fanout.source.isOpen then none
      else some { fanout with loop := some .ended }

/-- Remove the outlet that a session has now. -/
def evict (fanout : Fanout σ α) (id : SessionId) (item : α)
    (pending : List (SessionId × Nat)) : Fanout σ α :=
  let (registry, removed) := fanout.registry.unregister id
  let totals := fanout.totals
  { fanout with
    registry
    loop := some (.offering item pending)
    totals :=
      if removed then { totals with evicted := totals.evicted + 1 }
      else totals }

/-- A loop that waits ends when it heeds a call to stop. -/
def stop? (fanout : Fanout σ α) : Option (Fanout σ α) :=
  match fanout.loop with
  | some .waiting => some { fanout with loop := some .ended }
  | _ => none

/-- The next step of the loop, if it can take one. -/
def step? (fanout : Fanout σ α) : Option (Fanout σ α) :=
  match fanout.loop with
  | none | some .ended => none
  | some .waiting => fanout.take?
  | some (.offering _ []) => some { fanout with loop := some .waiting }
  | some (.offering item ((id, number) :: pending)) =>
      let (registry, outcome) := fanout.registry.offer number item
      some ({ fanout with registry }.judge outcome id number item pending)
  | some (.evicting id item pending) => some (fanout.evict id item pending)

/-- The next step of the worker of an outlet. -/
def work? [Sink σ ω α] (fanout : Fanout σ α) (number : Nat) (world : ω) :
    Option (Fanout σ α × ω) := do
  let (registry, world) ← fanout.registry.work? number world
  return ({ fanout with registry }, world)

/-- A step of the loop if it can take one, or else of the first worker that
can. -/
def advance? [Sink σ ω α] (fanout : Fanout σ α) (world : ω) :
    Option (Fanout σ α × ω) :=
  (fanout.step?.map (·, world)) <|>
    (List.range fanout.registry.outlets.length).findSome?
      (fanout.work? · world)

end Fanout

end LanRelay
