/-
The history of the outlets of a registry.

Whatever is done with a registry, to each of its outlets it is a number of
offers, closes and steps of its worker, and an outlet that is new has none of
these behind it. So what holds of an outlet from its creation on holds of all
that a registry has ever had.

Main statements: `Registry.Edit.continues`, and `Outlet.HasHistory.settled` for
an outlet whose worker has ended.
-/
import LanRelay.Proofs.Flow.Draining
import LanRelay.Proofs.Flow.Registry
import Mathlib.Logic.Relation

namespace LanRelay

variable {σ ω α : Type}

namespace OutletLife

/-- Nothing is left to do: all that the queue took was written or dropped,
unless the other end of the sink was gone, and the sink was closed after all
writes. -/
structure Settled (life : OutletLife σ α) : Prop where
  items : life.hasLost = false → ∃ lost,
    life.queueLife.accepted.Perm (life.writes.map SinkWrite.item ++ lost) ∧
      lost.length = life.outlet.metrics.dropped
  calls : ∃ flushed closed, life.outlet.sink.calls =
    life.writes.map .write ++ [.flush flushed, .close closed]

variable {life : OutletLife σ α}

theorem Noted.settled (h : life.Noted) (hbalanced : life.queueLife.Balanced)
    (hended : life.outlet.hasEnded = true) : life.Settled where
  items hnone := by
    obtain ⟨lost, hperm, hlength⟩ := h.exists_lost hbalanced
    rw [h.waiting_eq_nil hended hnone, List.append_nil] at hperm
    exact ⟨lost, hperm, hlength⟩
  calls := by
    obtain ⟨closing, hclosing, hcalls⟩ := h.calls
    rw [hended] at hclosing
    cases hclosing with
    | ended flushed closed => exact ⟨flushed, closed, hcalls⟩

theorem noted_run_start [Sink σ ω α] (name : String) (capacity : Nat)
    (policy : DropPolicy) (sink : σ) (acts : List (OutletAct ω α)) :
    ((start name capacity policy sink).run acts).Noted :=
  (noted_start name capacity policy sink).run acts

theorem unnoted_run_start [Sink σ ω α] (name : String) (capacity : Nat)
    (policy : DropPolicy) (sink : σ) (acts : List (OutletAct ω α)) :
    ((start name capacity policy sink).run acts).outlet.unnoted =
      (Outlet.create name capacity policy sink).run acts := by
  rw [outlet_run, Outlet.unnoted_run]
  rfl

end OutletLife

namespace Outlet

theorem run_append [Sink σ ω α] (outlet : Outlet σ α)
    (acts later : List (OutletAct ω α)) :
    outlet.run (acts ++ later) = (outlet.run acts).run later :=
  List.foldl_append

/-- The outlet has come of an empty one. -/
def HasHistory [Sink σ ω α] (outlet : Outlet σ α) : Prop :=
  ∃ name capacity policy sink, ∃ acts : List (OutletAct ω α),
    outlet = (create name capacity policy sink).run acts

/-- The worker is done, and so is all that the outlet was there for, whatever
its history is that begins with room for an item. -/
structure Settled [Sink σ ω α] (outlet : Outlet σ α) : Prop where
  ended : outlet.hasEnded = true
  history : outlet.HasHistory
  settled (name : String) (capacity : Nat) (policy : DropPolicy) (sink : σ)
    (acts : List (OutletAct ω α)) : 0 < capacity →
      outlet = (create name capacity policy sink).run acts →
      ((OutletLife.start name capacity policy sink).run acts).Settled

variable [Sink σ ω α] {outlet : Outlet σ α}

theorem hasHistory_create (name : String) (capacity : Nat)
    (policy : DropPolicy) (sink : σ) :
    (create name capacity policy sink : Outlet σ α).HasHistory :=
  ⟨name, capacity, policy, sink, [], rfl⟩

theorem HasHistory.run (h : outlet.HasHistory)
    (acts : List (OutletAct ω α)) : (outlet.run acts).HasHistory := by
  obtain ⟨name, capacity, policy, sink, before, rfl⟩ := h
  exact ⟨name, capacity, policy, sink, before ++ acts,
    (run_append _ before acts).symm⟩

theorem HasHistory.settled (h : outlet.HasHistory)
    (hended : outlet.hasEnded = true) : outlet.Settled where
  ended := hended
  history := h
  settled name capacity policy sink acts hroom houtlet := by
    refine (OutletLife.noted_run_start ..).settled
      (OutletLife.balanced_run_start name policy hroom sink acts) ?_
    rw [houtlet, ← OutletLife.unnoted_run_start] at hended
    exact hended

end Outlet

namespace Registry

variable [Sink σ ω α]

/-- What may be done with a registry. -/
inductive Edit (registry : Registry σ α) : Registry σ α → Prop where
  | register (id : SessionId) (name : String) (capacity : Nat)
      (policy : DropPolicy) (sink : σ) : Edit registry
        (registry.register id (.create name capacity policy sink)).1
  | unregister (id : SessionId) : Edit registry (registry.unregister id).1
  | close (number : Nat) : Edit registry (registry.adjust number Outlet.close)
  | clear : Edit registry registry.clear
  | offer (number : Nat) (item : α) :
      Edit registry (registry.offer number item).1
  /-- A worker takes a step in the world as others have left it. -/
  | work (number : Nat) (outlet outlet' : Outlet σ α) (world world' : ω)
      (houtlet : registry.outlets[number]? = some outlet)
      (h : outlet.work? world = some (outlet', world')) :
      Edit registry { registry with
        outlets := registry.outlets.set number outlet' }

/-- The later registry comes of the earlier one by such changes. -/
def Edits : Registry σ α → Registry σ α → Prop := Relation.ReflTransGen Edit

/-- Every outlet stays in its place and has gone on, and what is new has come
of an empty outlet. -/
structure Continues (registry registry' : Registry σ α) : Prop where
  kept {number : Nat} {outlet : Outlet σ α} :
    registry.outlets[number]? = some outlet →
      ∃ acts : List (OutletAct ω α),
        registry'.outlets[number]? = some (outlet.run acts)
  fresh {number : Nat} {outlet : Outlet σ α} :
    registry.outlets[number]? = none →
      registry'.outlets[number]? = some outlet → outlet.HasHistory

variable {registry registry' registry'' : Registry σ α}

namespace Continues

theorem of_outlets_eq (h : registry'.outlets = registry.outlets) :
    registry.Continues registry' where
  kept houtlet := ⟨[], h ▸ houtlet⟩
  fresh hnone houtlet := by
    rw [h, hnone] at houtlet
    cases houtlet

theorem refl (registry : Registry σ α) : registry.Continues registry :=
  .of_outlets_eq rfl

theorem trans (h : registry.Continues registry')
    (h' : registry'.Continues registry'') : registry.Continues registry'' where
  kept houtlet := by
    obtain ⟨acts, hkept⟩ := h.kept houtlet
    obtain ⟨acts', hkept'⟩ := h'.kept hkept
    exact ⟨acts ++ acts', by rw [Outlet.run_append, hkept']⟩
  fresh {number outlet} hnone houtlet := by
    cases hbetween : registry'.outlets[number]? with
    | none => exact h'.fresh hbetween houtlet
    | some before =>
        obtain ⟨acts, hkept⟩ := h'.kept hbetween
        obtain rfl := Option.some.inj (hkept.symm.trans houtlet)
        exact (h.fresh hnone hbetween).run acts

/-- One outlet goes on, or none does. -/
theorem of_modify {number : Nat} {outlets : List (Outlet σ α)}
    {f : Outlet σ α → Outlet σ α}
    (h : ∀ outlet, registry.outlets[number]? = some outlet →
      ∃ acts : List (OutletAct ω α), f outlet = outlet.run acts)
    (houtlets : outlets = registry.outlets.modify number f) :
    registry.Continues { registry with outlets } where
  kept {other outlet} houtlet := by
    by_cases hnumber : number = other
    · subst hnumber
      obtain ⟨acts, hacts⟩ := h outlet houtlet
      exact ⟨acts, by simp [houtlets, houtlet, hacts]⟩
    · exact ⟨[], by simp [houtlets, houtlet, hnumber, Outlet.run]⟩
  fresh {other outlet} hnone houtlet := by
    simp [houtlets, List.getElem?_modify, hnone] at houtlet

theorem register (registry : Registry σ α) (id : SessionId)
    {outlet : Outlet σ α} (h : outlet.HasHistory) :
    registry.Continues (registry.register id outlet).1 := by
  have hconcat (added : Outlet σ α) (hadded : added.HasHistory)
      {registry' : Registry σ α}
      (houtlets : registry'.outlets = registry.outlets ++ [added]) :
      registry.Continues registry' := by
    constructor
    · intro number before hbefore
      have hrange := (List.getElem?_eq_some_iff.mp hbefore).choose
      exact ⟨[], by rw [houtlets, List.getElem?_append_left hrange]
                    exact hbefore⟩
    · intro number new hnone hnew
      rw [houtlets, List.getElem?_append, if_neg (by simpa using hnone)] at hnew
      rwa [List.mem_singleton.mp (List.mem_of_getElem? hnew)]
  rcases registry.register_cases id outlet with ⟨-, heq⟩ | ⟨-, heq⟩
  · exact hconcat outlet h (by rw [heq])
  · exact hconcat outlet.close (h.run [.close]) (by rw [heq])

theorem adjust_close (registry : Registry σ α) (number : Nat) :
    registry.Continues (registry.adjust number Outlet.close) :=
  .of_modify (fun _ _ => ⟨[.close], rfl⟩) rfl

theorem unregister (registry : Registry σ α) (id : SessionId) :
    registry.Continues (registry.unregister id).1 := by
  unfold Registry.unregister
  split
  · exact .refl registry
  · exact (adjust_close registry _).trans (.of_outlets_eq rfl)

theorem offer (registry : Registry σ α) (number : Nat) (item : α) :
    registry.Continues (registry.offer number item).1 := by
  unfold Registry.offer
  split
  · exact .refl registry
  · rename_i outlet houtlet
    refine .of_modify (fun other hother => ?_) (List.set_eq_modify ..)
    obtain rfl := Option.some.inj (houtlet.symm.trans hother)
    exact ⟨[.offer item], rfl⟩

end Continues

theorem Edit.continues (h : registry.Edit registry') :
    registry.Continues registry' := by
  cases h with
  | register id name capacity policy sink =>
      exact .register registry id (Outlet.hasHistory_create ..)
  | unregister id => exact .unregister registry id
  | close number => exact .adjust_close registry number
  | clear => exact .of_outlets_eq rfl
  | offer number item => exact .offer registry number item
  | work number outlet outlet' world world' houtlet h =>
      refine .of_modify (fun other hother => ?_) (List.set_eq_modify ..)
      obtain rfl := Option.some.inj (houtlet.symm.trans hother)
      exact ⟨[.work world], by simp [Outlet.run, Outlet.act, h]⟩

theorem Edit.numbered (h : registry.Edit registry')
    (hnumbered : registry.Numbered) : registry'.Numbered := by
  cases h with
  | register id name capacity policy sink => exact hnumbered.register id _
  | unregister id => exact hnumbered.unregister id
  | close number => exact hnumbered.adjust number _
  | clear => exact .clear registry
  | offer number item => exact hnumbered.offer number item
  | work number outlet outlet' world world' houtlet h =>
      exact hnumbered.of_outlets List.length_set

theorem Edits.continues (h : registry.Edits registry') :
    registry.Continues registry' := by
  induction h with
  | refl => exact .refl registry
  | tail _ hedit ih => exact ih.trans hedit.continues

theorem Edits.numbered (h : registry.Edits registry')
    (hnumbered : registry.Numbered) : registry'.Numbered := by
  induction h with
  | refl => exact hnumbered
  | tail _ hedit ih => exact hedit.numbered ih

end Registry

end LanRelay
