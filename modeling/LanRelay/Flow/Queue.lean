/-
Bounded queues, and what an offer does to a full one.

An offer never waits. It is made of single sends and receives, and others may
send and receive between these; so an offer is described step by step, and
`offer` is the case in which nobody comes between.
-/
import LanRelay.Config.Blueprint
import LanRelay.Flow.Polled

namespace LanRelay

/-- A queue for at most `capacity` items, the oldest at the head. Once closed
it takes no more items, and gives out those that it has. -/
structure Queue (α : Type) where
  capacity : Nat
  items : List α := []
  isOpen : Bool := true
deriving Repr

namespace Queue

variable {α : Type}

/-- A queue needs room for an item. -/
def withCapacity? (capacity : Nat) : Option (Queue α) :=
  if capacity = 0 then none else some { capacity }

def size (queue : Queue α) : Nat := queue.items.length

/-- What becomes of an item that is sent without waiting. -/
inductive Sent where
  | queued
  | full
  | closed
deriving DecidableEq, Repr

/-- Send an item if the queue is open and has room. -/
def trySend (queue : Queue α) (item : α) : Queue α × Sent :=
  if queue.isOpen then
    if queue.size < queue.capacity then
      ({ queue with items := queue.items ++ [item] }, .queued)
    else (queue, .full)
  else (queue, .closed)

/-- Take the oldest item, if there is one. -/
def receive (queue : Queue α) : Queue α × Option α :=
  match queue.items with
  | [] => (queue, none)
  | item :: items => ({ queue with items }, some item)

/-- Take the oldest item, or wait for one while the queue is open. -/
def poll (queue : Queue α) : Polled (α × Queue α) :=
  match queue.items with
  | item :: items => .ready (item, { queue with items })
  | [] => if queue.isOpen then .pending else .closed

def close (queue : Queue α) : Queue α := { queue with isOpen := false }

end Queue

/-- What an offer comes to. -/
inductive Offer where
  /-- The item is queued and nothing is lost. -/
  | queued
  /-- The item is queued after the oldest was taken out for it. -/
  | droppedOldest
  /-- The item is lost. -/
  | droppedNewest
  /-- The queue takes no items. -/
  | closed
deriving DecidableEq, Repr

def Offer.name : Offer → String
  | queued => "Queued"
  | droppedOldest => "DroppedOldest"
  | droppedNewest => "DroppedNewest"
  | closed => "Closed"

/-- An item is lost. -/
def Offer.isDrop : Offer → Bool
  | droppedOldest | droppedNewest => true
  | queued | closed => false

/-- How far an offer has come. -/
inductive OfferStage (α : Type) where
  | start (item : α)
  /-- The queue was full, and the oldest item is to be taken out. -/
  | evict (item : α)
  /-- The oldest item is out, and the item is to be sent again. -/
  | retry (item : α)
  | finished (outcome : Offer)
deriving Repr

namespace OfferStage

variable {α : Type}

/-- The next send or receive of an offer. -/
def step (policy : DropPolicy) (queue : Queue α) :
    OfferStage α → Queue α × OfferStage α
  | start item =>
      match queue.trySend item with
      | (queue, .queued) => (queue, finished .queued)
      | (queue, .closed) => (queue, finished .closed)
      | (queue, .full) =>
          match policy with
          | .dropNewest => (queue, finished .droppedNewest)
          | .dropOldest => (queue, evict item)
  | evict item => (queue.receive.1, retry item)
  | retry item =>
      match queue.trySend item with
      | (queue, .queued) => (queue, finished .droppedOldest)
      | (queue, .closed) => (queue, finished .closed)
      | (queue, .full) => (queue, finished .droppedNewest)
  | finished outcome => (queue, finished outcome)

end OfferStage

namespace Queue

variable {α : Type}

/-- Offer an item. A full queue gives up the oldest item for it, or the item
itself. -/
def offer (policy : DropPolicy) (queue : Queue α) (item : α) :
    Queue α × Offer :=
  match queue.trySend item with
  | (queue, .queued) => (queue, .queued)
  | (queue, .closed) => (queue, .closed)
  | (queue, .full) =>
      match policy with
      | .dropNewest => (queue, .droppedNewest)
      | .dropOldest =>
          match queue.receive.1.trySend item with
          | (queue, .queued) => (queue, .droppedOldest)
          | (queue, .closed) => (queue, .closed)
          | (queue, .full) => (queue, .droppedNewest)

/-- An offer is its three steps with nobody in between. -/
theorem step_step_step_start (policy : DropPolicy) (queue : Queue α)
    (item : α) :
    let one := OfferStage.step policy queue (.start item)
    let two := OfferStage.step policy one.1 one.2
    OfferStage.step policy two.1 two.2 =
      ((queue.offer policy item).1, .finished (queue.offer policy item).2) := by
  rcases hfirst : queue.trySend item with ⟨queue₁, sent⟩
  cases sent with
  | queued => simp [OfferStage.step, offer, hfirst]
  | closed => simp [OfferStage.step, offer, hfirst]
  | full =>
      cases policy with
      | dropNewest => simp [OfferStage.step, offer, hfirst]
      | dropOldest =>
          rcases hsecond : queue₁.receive.1.trySend item with ⟨queue₂, sent⟩
          cases sent <;> simp [OfferStage.step, offer, hfirst, hsecond]

end Queue

end LanRelay
