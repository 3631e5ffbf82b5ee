/-
What is still to come out of queues, offers and outlets, in order.

No step of an offer and no step of a worker changes the order of what is to
come, or has an item come twice. Items can only be lost.

Main statements: `OfferStage.step_sublist` for an offer of which every send and
receive is a step of its own, and `Registry.waiting_adjust` for changes of an
outlet that leave its items alone.
-/
import LanRelay.Flow.Fanout

namespace LanRelay

variable {σ α : Type}

namespace Queue

theorem eq_cons_of_receive {queue rest : Queue α} {item : α}
    (h : queue.receive = (rest, some item)) :
    queue.items = item :: rest.items := by
  unfold receive at h
  split at h
  · cases h
  · rename_i items hitems
    cases h
    exact hitems

theorem receive_items_sublist (queue : Queue α) :
    queue.receive.1.items.Sublist queue.items := by
  unfold receive
  split
  · exact List.Sublist.refl _
  · rename_i item items hitems
    rw [hitems]
    exact List.sublist_cons_self item items

/-- A send either queues the item behind all others or changes nothing. -/
theorem trySend_eq (queue : Queue α) (item : α) :
    (queue.trySend item =
        ({ queue with items := queue.items ++ [item] }, .queued)) ∨
      queue.trySend item = (queue, .full) ∨
      queue.trySend item = (queue, .closed) := by
  unfold trySend
  split
  · split
    · exact Or.inl rfl
    · exact Or.inr (Or.inl rfl)
  · exact Or.inr (Or.inr rfl)

end Queue

namespace OfferStage

/-- The item of an offer that is not finished. -/
def inFlight : OfferStage α → List α
  | start item | evict item | retry item => [item]
  | finished _ => []

/-- A step of an offer keeps the order of the queue with the offered item
behind it. -/
theorem step_sublist (policy : DropPolicy) (queue : Queue α)
    (stage : OfferStage α) :
    ((stage.step policy queue).1.items ++
        (stage.step policy queue).2.inFlight).Sublist
      (queue.items ++ stage.inFlight) := by
  cases stage with
  | start item =>
      rcases queue.trySend_eq item with h | h | h
      · simp [step, h, inFlight]
      · cases policy <;> simp [step, h, inFlight]
      · simp [step, h, inFlight]
  | evict item =>
      exact queue.receive_items_sublist.append_right [item]
  | retry item =>
      rcases queue.trySend_eq item with h | h | h <;> simp [step, h, inFlight]
  | finished outcome => exact List.Sublist.refl _

end OfferStage

namespace Outlet

/-- The item that the worker of an outlet has in hand. -/
def inHand (outlet : Outlet σ α) : List α :=
  match outlet.phase with
  | .writing item => [item]
  | .idle | .ended => []

/-- What an outlet has yet to write, the next at the head. -/
def waiting (outlet : Outlet σ α) : List α :=
  outlet.inHand ++ outlet.queue.items

@[simp]
theorem waiting_close (outlet : Outlet σ α) :
    outlet.close.waiting = outlet.waiting := rfl

end Outlet

namespace Registry

/-- A change of an outlet is not seen in what it leaves alone. -/
theorem map_adjust {β : Type} (registry : Registry σ α) (number : Nat)
    {f : Outlet σ α → Outlet σ α} {g : Outlet σ α → β}
    (h : ∀ outlet, g (f outlet) = g outlet) :
    (registry.adjust number f).outlets.map g = registry.outlets.map g := by
  apply List.ext_getElem?
  intro other
  simp only [adjust, List.getElem?_map, List.getElem?_modify]
  cases registry.outlets[other]? with
  | none => rfl
  | some outlet =>
      by_cases hnumber : number = other
      · simp [hnumber, h]
      · simp [hnumber]

@[simp]
theorem length_adjust (registry : Registry σ α) (number : Nat)
    (f : Outlet σ α → Outlet σ α) :
    (registry.adjust number f).outlets.length = registry.outlets.length :=
  List.length_modify ..

/-- What the outlet with a number has yet to write. -/
def waiting (registry : Registry σ α) (number : Nat) : List α :=
  ((registry.outlets.map Outlet.waiting)[number]?).getD []

theorem waiting_of_getElem? {registry : Registry σ α} {number : Nat}
    {outlet : Outlet σ α} (h : registry.outlets[number]? = some outlet) :
    registry.waiting number = outlet.waiting := by
  rw [waiting, List.getElem?_map, h]
  rfl

theorem map_set {β : Type} {registry : Registry σ α} {number : Nat}
    {outlet outlet' : Outlet σ α} {g : Outlet σ α → β}
    (houtlet : registry.outlets[number]? = some outlet)
    (h : g outlet' = g outlet) :
    (registry.outlets.set number outlet').map g = registry.outlets.map g := by
  obtain ⟨hrange, rfl⟩ := List.getElem?_eq_some_iff.mp houtlet
  rw [List.map_set, h, ← List.getElem_map g (h := by simpa using hrange),
    List.set_getElem_self]

theorem waiting_set {registry : Registry σ α} {number : Nat}
    {outlet : Outlet σ α} (outlet' : Outlet σ α) (other : Nat)
    (houtlet : registry.outlets[number]? = some outlet) :
    waiting { registry with
        outlets := registry.outlets.set number outlet' } other =
      if number = other then outlet'.waiting else registry.waiting other := by
  obtain ⟨hrange, -⟩ := List.getElem?_eq_some_iff.mp houtlet
  by_cases h : number = other
  · subst h
    simp [waiting, hrange]
  · simp [waiting, h]

theorem waiting_adjust (registry : Registry σ α) (number : Nat)
    {f : Outlet σ α → Outlet σ α}
    (h : ∀ outlet, (f outlet).waiting = outlet.waiting) :
    (registry.adjust number f).waiting = registry.waiting := by
  funext other
  rw [waiting, map_adjust registry number h, waiting]

end Registry

end LanRelay
