/-
Whose the outlets of a registry are.

The outlet of a session stays where it is and stays closed once it is. Whoever
removes it from the table closes it. So a session that has registered an outlet
finds it registered or closed, until the table is cleared.

Main statements: `Registry.Tended` with the operations that keep to it, and
`Registry.Serves.step`.
-/
import LanRelay.Proofs.Flow.Registry
import Mathlib.Data.List.Basic

namespace LanRelay

variable {σ ω α : Type}

/-- What stands in a list with an item behind it is that item or stood there. -/
theorem getElem?_concat_eq_some {xs : List α} {x y : α} {i : Nat} :
    (xs ++ [x])[i]? = some y ↔
      xs[i]? = some y ∨ (i = xs.length ∧ x = y) := by
  rcases Nat.lt_trichotomy i xs.length with hlt | heq | hgt
  · simp [List.getElem?_append_left hlt, Nat.ne_of_lt hlt]
  · simp [heq]
  · have hrange : (xs ++ [x]).length ≤ i := by
      rwa [List.length_append, List.length_singleton]
    simp [List.getElem?_eq_none hrange,
      List.getElem?_eq_none (Nat.le_of_lt hgt), Nat.ne_of_gt hgt]

/-- Whatever is done with a sink, it stays with its session. -/
structure Sink.KeepsOwner [Sink σ ω α] (owner : σ → Option Nat) : Prop where
  write {item : α} {sink sink' : σ} {world world' : ω}
    {result : Except Fault Unit} :
    Sink.write item (sink, world) = some (result, sink', world') →
      owner sink' = owner sink
  flush (state : σ × ω) : owner (Sink.flush state).2.1 = owner state.1
  close (state : σ × ω) : owner (Sink.close state).2.1 = owner state.1

variable {owner : σ → Option Nat}

theorem Queue.isOpen_receive (queue : Queue α) :
    queue.receive.1.isOpen = queue.isOpen := by
  unfold receive
  split <;> rfl

namespace Outlet

/-- An outlet later on: it is for the same session, and does not open again. -/
structure Later (owner : σ → Option Nat) (outlet outlet' : Outlet σ α) :
    Prop where
  owner_eq : owner outlet'.sink = owner outlet.sink
  isClosed : outlet.isClosed = true → outlet'.isClosed = true

theorem Later.refl (outlet : Outlet σ α) : Later owner outlet outlet :=
  ⟨rfl, id⟩

theorem later_close (outlet : Outlet σ α) : Later owner outlet outlet.close :=
  ⟨rfl, fun _ => rfl⟩

theorem later_offer (outlet : Outlet σ α) (item : α) :
    Later owner outlet (outlet.offer item).1 := by
  refine ⟨rfl, fun hclosed => ?_⟩
  have hopen : outlet.queue.isOpen = false := by simpa [isClosed] using hclosed
  simp [isClosed, offer, Queue.offer, Queue.trySend, hopen]

theorem later_windDown [Sink σ ω α] (h : Sink.KeepsOwner (α := α) owner)
    (outlet : Outlet σ α) (world : ω) :
    Later owner outlet (outlet.windDown world).1 :=
  ⟨(h.close _).trans (h.flush _), id⟩

theorem later_written [Sink σ ω α] (h : Sink.KeepsOwner (α := α) owner)
    (outlet : Outlet σ α) (result : Except Fault Unit) (world : ω) :
    Later owner outlet (outlet.written result world).1 := by
  unfold written
  split
  · exact ⟨rfl, id⟩
  · exact ⟨(outlet.close.later_windDown h world).owner_eq, fun _ => rfl⟩
  · exact ⟨rfl, id⟩

/-- A step of its worker leaves an outlet with its session. -/
theorem later_work? [Sink σ ω α] (h : Sink.KeepsOwner (α := α) owner)
    {outlet outlet' : Outlet σ α} {world world' : ω}
    (hwork : outlet.work? world = some (outlet', world')) :
    Later owner outlet outlet' := by
  unfold work? at hwork
  split at hwork
  · cases hwork
  · split at hwork
    · rename_i queue item hreceive
      cases hwork
      refine ⟨rfl, fun hclosed => ?_⟩
      have hopen := outlet.queue.isOpen_receive
      rw [hreceive] at hopen
      rwa [isClosed, hopen]
    · split at hwork
      · cases hwork
      · have hlater := outlet.later_windDown h world
        rwa [Option.some.inj hwork] at hlater
  · obtain ⟨⟨result, sink, world₁⟩, hwrite, hwritten⟩ :=
      Option.bind_eq_some_iff.mp hwork
    have hlater := later_written h { outlet with sink } result world₁
    rw [Option.some.inj hwritten] at hlater
    exact ⟨hlater.owner_eq.trans (h.write hwrite), hlater.isClosed⟩

end Outlet

namespace Registry

/-- The outlets of a session are those that it had, later on. -/
structure Ages (owner : σ → Option Nat) (session : Nat)
    (registry registry' : Registry σ α) : Prop where
  old {number : Nat} {outlet' : Outlet σ α} :
    registry'.outlets[number]? = some outlet' →
    owner outlet'.sink = some session →
    ∃ outlet, registry.outlets[number]? = some outlet ∧
      owner outlet.sink = some session
  kept {number : Nat} {outlet : Outlet σ α} :
    registry.outlets[number]? = some outlet →
    ∃ outlet', registry'.outlets[number]? = some outlet' ∧
      outlet.Later owner outlet'

/-- Nothing is newly registered under an identifier, and what is removed is
closed. -/
structure Stays (id : SessionId) (registry registry' : Registry σ α) :
    Prop where
  absent : registry.contains id = false → registry'.contains id = false
  left {number : Nat} : registry.table.get? id = some number →
    registry'.table.get? id = some number ∨
      ∀ outlet, registry'.outlets[number]? = some outlet →
        outlet.isClosed = true

/-- No outlet comes in, and none gets out of the table open. -/
structure Tended (owner : σ → Option Nat) (registry registry' : Registry σ α) :
    Prop where
  ages : ∀ session, Ages owner session registry registry'
  stays : ∀ id, Stays id registry registry'

variable {registry : Registry σ α}

theorem Stays.of_table_eq {id : SessionId} {registry' : Registry σ α}
    (h : registry'.table = registry.table) : Stays id registry registry' where
  absent habsent := by rwa [contains, h]
  left hnumber := Or.inl (h ▸ hnumber)

theorem Ages.of_outlets_eq {session : Nat} {registry' : Registry σ α}
    (h : registry'.outlets = registry.outlets) :
    Ages owner session registry registry' where
  old houtlet' howner := ⟨_, h ▸ houtlet', howner⟩
  kept houtlet := ⟨_, h ▸ houtlet, .refl _⟩

/-! What keeps to it. -/

theorem Tended.refl (registry : Registry σ α) :
    Tended owner registry registry :=
  ⟨fun _ => .of_outlets_eq rfl, fun _ => .of_table_eq rfl⟩

theorem ages_adjust {number : Nat} {f : Outlet σ α → Outlet σ α}
    (h : ∀ outlet, registry.outlets[number]? = some outlet →
      outlet.Later owner (f outlet)) (session : Nat) :
    Ages owner session registry (registry.adjust number f) := by
  have hlater {other : Nat} {outlet : Outlet σ α}
      (houtlet : registry.outlets[other]? = some outlet) :
      ∃ outlet', (registry.adjust number f).outlets[other]? = some outlet' ∧
        outlet.Later owner outlet' := by
    by_cases hnumber : number = other
    · subst hnumber
      exact ⟨f outlet, by simp [adjust, houtlet], h outlet houtlet⟩
    · exact ⟨outlet, by simp [adjust, houtlet, hnumber], .refl outlet⟩
  refine ⟨fun {other outlet'} houtlet' howner => ?_, hlater⟩
  have hrange : other < registry.outlets.length := by
    simpa using (List.getElem?_eq_some_iff.mp houtlet').choose
  have houtlet := List.getElem?_eq_getElem hrange
  obtain ⟨later, hsame, hold⟩ := hlater houtlet
  obtain rfl : later = outlet' := Option.some.inj (hsame.symm.trans houtlet')
  exact ⟨_, houtlet, hold.owner_eq.symm.trans howner⟩

theorem tended_adjust {number : Nat} {f : Outlet σ α → Outlet σ α}
    (h : ∀ outlet, registry.outlets[number]? = some outlet →
      outlet.Later owner (f outlet)) :
    Tended owner registry (registry.adjust number f) :=
  ⟨ages_adjust h, fun _ => .of_table_eq rfl⟩

theorem tended_set {number : Nat} {outlet outlet' : Outlet σ α}
    (houtlet : registry.outlets[number]? = some outlet)
    (h : outlet.Later owner outlet') :
    Tended owner registry
      { registry with outlets := registry.outlets.set number outlet' } := by
  rw [List.set_eq_modify]
  refine tended_adjust fun outlet₁ houtlet₁ => ?_
  obtain rfl := Option.some.inj (houtlet₁.symm.trans houtlet)
  exact h

theorem tended_offer (number : Nat) (item : α) :
    Tended owner registry (registry.offer number item).1 := by
  unfold offer
  split
  · exact .refl registry
  · rename_i outlet houtlet
    exact tended_set houtlet (outlet.later_offer item)

theorem tended_unregister (id : SessionId) :
    Tended owner registry (registry.unregister id).1 := by
  unfold unregister
  split
  · exact .refl registry
  · rename_i number hnumber
    refine ⟨fun session => ?_, fun other => ⟨fun habsent => ?_,
      fun {entry} hentry => ?_⟩⟩
    · have hages : Ages owner session registry
          (registry.adjust number Outlet.close) :=
        ages_adjust (fun outlet _ => outlet.later_close) session
      exact ⟨hages.old, hages.kept⟩
    · simp only [contains, Keyed.contains, Keyed.get?_erase] at habsent ⊢
      split
      · rfl
      · exact habsent
    · rw [Keyed.get?_erase]
      split
      · rename_i hid
        right
        intro outlet houtlet
        rw [hid, hnumber] at hentry
        cases hentry
        obtain ⟨before, -, rfl⟩ : ∃ before : Outlet σ α,
            registry.outlets[number]? = some before ∧
              before.close = outlet := by
          simpa [adjust] using houtlet
        rfl
      · exact Or.inl hentry

/-- Registering is seen by the session of the outlet only. -/
theorem ages_register {id : SessionId} {outlet : Outlet σ α} {session : Nat}
    (h : owner outlet.sink ≠ some session) :
    Ages owner session registry (registry.register id outlet).1 := by
  obtain ⟨added, hadded, houtlets⟩ : ∃ added : Outlet σ α,
      owner added.sink ≠ some session ∧
        (registry.register id outlet).1.outlets =
          registry.outlets ++ [added] := by
    rcases registry.register_cases id outlet with ⟨-, heq⟩ | ⟨-, heq⟩
    · exact ⟨outlet, h, by rw [heq]⟩
    · exact ⟨outlet.close, h, by rw [heq]⟩
  constructor
  · intro number outlet' houtlet' howner
    rw [houtlets, getElem?_concat_eq_some] at houtlet'
    rcases houtlet' with hold | ⟨-, rfl⟩
    · exact ⟨outlet', hold, howner⟩
    · exact absurd howner hadded
  · intro number before hbefore
    rw [houtlets]
    exact ⟨before, getElem?_concat_eq_some.mpr (Or.inl hbefore), .refl before⟩

/-- Registering is not seen under another identifier. -/
theorem stays_register {id other : SessionId} (outlet : Outlet σ α)
    (h : other ≠ id) :
    Stays other registry (registry.register id outlet).1 := by
  rcases registry.register_cases id outlet with ⟨-, heq⟩ | ⟨-, heq⟩ <;> rw [heq]
  · constructor
    · intro habsent
      simpa [contains, Keyed.contains, Keyed.get?_put, h] using habsent
    · intro number hnumber
      exact Or.inl (by rw [Keyed.get?_put, if_neg h, hnumber])
  · exact .of_table_eq rfl

theorem contains_unregister (id : SessionId) :
    (registry.unregister id).1.contains id = false := by
  unfold unregister
  split
  · rename_i hnone
    simp [contains, Keyed.contains, hnone]
  · simp [contains, Keyed.contains, Keyed.get?_erase]

/-! The outlet of a session. -/

/-- No outlet is for the session. -/
def Ownerless (owner : σ → Option Nat) (registry : Registry σ α)
    (session : Nat) : Prop :=
  ∀ (number : Nat) (outlet : Outlet σ α),
    registry.outlets[number]? = some outlet → owner outlet.sink ≠ some session

/-- The one outlet of a session is registered under its identifier, or has been
closed. -/
def Serves (owner : σ → Option Nat) (registry : Registry σ α) (session : Nat)
    (id : SessionId) : Prop :=
  ∃ (number : Nat) (outlet : Outlet σ α),
    registry.outlets[number]? = some outlet ∧
    owner outlet.sink = some session ∧
    (∀ (other : Nat) (outlet' : Outlet σ α),
      registry.outlets[other]? = some outlet' →
      owner outlet'.sink = some session → other = number) ∧
    (registry.table.get? id = some number ∨ outlet.isClosed = true)

variable {registry' : Registry σ α} {session : Nat} {id : SessionId}

theorem Ownerless.ages (h : registry.Ownerless owner session)
    (hages : Ages owner session registry registry') :
    registry'.Ownerless owner session := by
  intro number outlet' houtlet' howner
  obtain ⟨outlet, houtlet, hsession⟩ := hages.old houtlet' howner
  exact h number outlet houtlet hsession

/-- A session keeps its outlet. -/
theorem Serves.step (h : registry.Serves owner session id)
    (hages : Ages owner session registry registry')
    (hstays : Stays id registry registry') :
    registry'.Serves owner session id := by
  obtain ⟨number, outlet, houtlet, howner, honly, hplace⟩ := h
  obtain ⟨outlet', houtlet', hlater⟩ := hages.kept houtlet
  refine ⟨number, outlet', houtlet', hlater.owner_eq.trans howner, ?_, ?_⟩
  · intro other outlet₁ houtlet₁ howner₁
    obtain ⟨before, hbefore, hsession⟩ := hages.old houtlet₁ howner₁
    exact honly other before hbefore hsession
  · rcases hplace with hnumber | hclosed
    · exact (hstays.left hnumber).imp_right fun hleft =>
        hleft outlet' houtlet'
    · exact Or.inr (hlater.isClosed hclosed)

/-- A session that registers its first outlet is served by it. -/
theorem Ownerless.serves_register (h : registry.Ownerless owner session)
    (habsent : registry.contains id = false) {outlet : Outlet σ α}
    (howner : owner outlet.sink = some session) :
    (registry.register id outlet).1.Serves owner session id := by
  rcases registry.register_cases id outlet with ⟨-, heq⟩ | ⟨hcontains, -⟩
  · rw [heq]
    refine ⟨registry.outlets.length, outlet, List.getElem?_concat_length,
      howner, fun other outlet' houtlet' hsession => ?_, Or.inl ?_⟩
    · rcases getElem?_concat_eq_some.mp houtlet' with hold | ⟨hlast, -⟩
      · exact absurd hsession (h other outlet' hold)
      · exact hlast
    · rw [Keyed.get?_put, if_pos rfl]
  · rw [habsent] at hcontains
    cases hcontains

end Registry

/-! Loops and workers. -/

namespace Fanout

variable {fanout fanout' : Fanout σ α}

theorem registry_stop? (h : fanout.stop? = some fanout') :
    fanout'.registry = fanout.registry := by
  unfold stop? at h
  split at h
  · cases h
    rfl
  · cases h

theorem registry_take? (h : fanout.take? = some fanout') :
    fanout'.registry = fanout.registry := by
  unfold take? at h
  split at h
  · cases h
    rfl
  · split at h
    · cases h
    · cases h
      rfl

/-- The loop offers, and removes what it has judged. -/
theorem tended_step? (h : fanout.step? = some fanout') :
    Registry.Tended owner fanout.registry fanout'.registry := by
  unfold step? at h
  split at h
  · cases h
  · cases h
  · rw [registry_take? h]
    exact .refl _
  · cases h
    exact .refl _
  · cases h
    rw [judge_registry]
    exact Registry.tended_offer _ _
  · cases h
    exact Registry.tended_unregister _

theorem tended_work? [Sink σ ω α] (h : Sink.KeepsOwner (α := α) owner)
    {number : Nat} {world world' : ω}
    (hwork : fanout.work? number world = some (fanout', world')) :
    Registry.Tended owner fanout.registry fanout'.registry := by
  obtain ⟨outlet, outlet', houtlet, hstep, rfl⟩ := eq_of_work? hwork
  exact Registry.tended_set houtlet (Outlet.later_work? h hstep)

end Fanout

end LanRelay
