/-
The registry of a stream: the outlets that its items are copied to, by
session.

An outlet is referred to by its number, the place it has among all outlets
that were ever handed to the registry. The number stays its own when its
session is removed and registered again, so one can tell an outlet from a
later one of the same session. An outlet that is refused or removed is closed,
and its worker still empties it.
-/
import LanRelay.Flow.Outlet
import LanRelay.Keyed
import LanRelay.SessionId

namespace LanRelay

/-- The outlets of a stream, and the numbers of those that are registered. -/
structure Registry (σ α : Type) where
  stream : Stream
  outlets : List (Outlet σ α) := []
  table : Keyed SessionId Nat := .empty

namespace Registry

variable {σ ω α : Type}

def size (registry : Registry σ α) : Nat := registry.table.size

def contains (registry : Registry σ α) (id : SessionId) : Bool :=
  registry.table.contains id

/-- The registered outlet of a session. -/
def get? (registry : Registry σ α) (id : SessionId) : Option (Outlet σ α) :=
  (registry.table.get? id).bind (registry.outlets[·]?)

/-- The registered sessions and the numbers of their outlets. -/
def snapshot (registry : Registry σ α) : List (SessionId × Nat) :=
  registry.table.entries

/-- The registered outlets. -/
def registered (registry : Registry σ α) : List (Outlet σ α) :=
  registry.table.values.filterMap (registry.outlets[·]?)

/-- Change the outlet with a number. -/
def adjust (registry : Registry σ α) (number : Nat)
    (f : Outlet σ α → Outlet σ α) : Registry σ α :=
  { registry with outlets := registry.outlets.modify number f }

/-- Register an outlet, and say its number. An outlet for a session that has
one is refused and closed. -/
def register (registry : Registry σ α) (id : SessionId)
    (outlet : Outlet σ α) : Registry σ α × Except RegistryFault Nat :=
  let number := registry.outlets.length
  if registry.contains id then
    ({ registry with outlets := registry.outlets ++ [outlet.close] },
      .error (.alreadyRegistered registry.stream id))
  else
    ({ registry with
        outlets := registry.outlets ++ [outlet]
        table := registry.table.put id number },
      .ok number)

/-- Remove and close the outlet of a session; say whether there was one. -/
def unregister (registry : Registry σ α) (id : SessionId) :
    Registry σ α × Bool :=
  match registry.table.get? id with
  | none => (registry, false)
  | some number =>
      ({ registry.adjust number Outlet.close with
          table := registry.table.erase id },
        true)

/-- Remove all sessions. Their outlets are to be closed one by one. -/
def clear (registry : Registry σ α) : Registry σ α :=
  { registry with table := .empty }

/-- Remove all sessions and close their outlets. -/
def closeAll (registry : Registry σ α) : Registry σ α :=
  registry.table.values.foldl
    (fun registry number => registry.adjust number Outlet.close)
    registry.clear

/-- Offer an item to the outlet with a number, registered or not. -/
def offer (registry : Registry σ α) (number : Nat) (item : α) :
    Registry σ α × Offer :=
  match registry.outlets[number]? with
  | none => (registry, .closed)
  | some outlet =>
      let (outlet, outcome) := outlet.offer item
      ({ registry with outlets := registry.outlets.set number outlet },
        outcome)

/-- The next step of the worker of the outlet with a number. -/
def work? [Sink σ ω α] (registry : Registry σ α) (number : Nat) (world : ω) :
    Option (Registry σ α × ω) := do
  let outlet ← registry.outlets[number]?
  let (outlet, world) ← outlet.work? world
  return ({ registry with outlets := registry.outlets.set number outlet },
    world)

/-- The totals over the registered outlets. -/
def metrics (registry : Registry σ α) : OutletMetrics :=
  (registry.registered.map (·.metrics)).foldl OutletMetrics.add {}

end Registry

end LanRelay
