/-
The numbers in the table of a registry.

An outlet gets the number of the place where it is put, so no two sessions have
the same one, however often they are registered and removed.

Main statements: `Registry.Numbered` and the operations that keep it, and what
a step of the loop and of a worker leaves alone.
-/
import LanRelay.Proofs.Flow.Waiting
import LanRelay.Proofs.Keyed

namespace LanRelay

namespace Keyed

variable {κ α : Type} [DecidableEq κ]

theorem not_mem_keys_of_not_contains {map : Keyed κ α} {key : κ}
    (h : map.contains key = false) : key ∉ map.keys := by
  intro hkey
  obtain ⟨entry, hentry, rfl⟩ := List.mem_map.mp hkey
  simp only [contains, get?, Option.isSome_map, Option.isSome_eq_false_iff,
    Option.isNone_iff_eq_none, List.find?_eq_none] at h
  exact h entry hentry (by simp)

/-- A value under a new key is put at the end. -/
theorem putEntry_of_not_mem {key : κ} (value : α) {entries : List (κ × α)}
    (h : key ∉ entries.map Prod.fst) :
    putEntry key value entries = entries ++ [(key, value)] := by
  induction entries with
  | nil => rfl
  | cons entry entries ih =>
      obtain ⟨k, v⟩ := entry
      simp only [List.map_cons, List.mem_cons, not_or] at h
      rw [putEntry, if_neg (Ne.symm h.1), ih h.2, List.cons_append]

theorem values_put_of_not_contains {map : Keyed κ α} {key : κ} (value : α)
    (h : map.contains key = false) :
    (map.put key value).values = map.values ++ [value] := by
  have hnew : key ∉ map.entries.map Prod.fst := not_mem_keys_of_not_contains h
  simp [values, put, putEntry_of_not_mem value hnew]

theorem values_erase_sublist (map : Keyed κ α) (key : κ) :
    (map.erase key).values.Sublist map.values :=
  List.filter_sublist.map Prod.snd

end Keyed

variable {σ ω α : Type}

namespace Registry

/-- Every number in the table stands there once and is that of an outlet. -/
structure Numbered (registry : Registry σ α) : Prop where
  nodup : registry.table.values.Nodup
  range : ∀ number ∈ registry.table.values, number < registry.outlets.length

/-- Registering puts the outlet, or the same outlet closed, behind all
others. -/
theorem register_cases (registry : Registry σ α) (id : SessionId)
    (outlet : Outlet σ α) :
    (registry.contains id = false ∧ (registry.register id outlet).1 =
        { registry with
          outlets := registry.outlets ++ [outlet]
          table := registry.table.put id registry.outlets.length }) ∨
      (registry.contains id = true ∧ (registry.register id outlet).1 =
        { registry with outlets := registry.outlets ++ [outlet.close] }) := by
  unfold register
  cases registry.contains id <;> simp

theorem table_unregister (registry : Registry σ α) (id : SessionId) :
    (registry.unregister id).1.table = registry.table.erase id := by
  unfold unregister
  split
  · rename_i hnone
    refine Keyed.ext (List.filter_eq_self.mpr fun entry hentry => ?_).symm
    rw [decide_eq_true_iff]
    rintro rfl
    rw [Keyed.mem_entries_iff.mp (show (entry.1, entry.2) ∈ _ from hentry)]
      at hnone
    cases hnone
  · rfl

theorem getElem?_unregister (registry : Registry σ α) (id : SessionId)
    (number : Nat) :
    (registry.unregister id).1.outlets[number]? =
      if registry.table.get? id = some number then
        (registry.outlets[number]?).map Outlet.close
      else registry.outlets[number]? := by
  unfold unregister
  split
  · rename_i hnone
    simp [hnone]
  · rename_i registered hnumber
    rw [hnumber]
    by_cases h : registered = number
    · simp [adjust, h]
    · simp [adjust, h]

theorem unregister_outlets {β : Type} (registry : Registry σ α)
    (id : SessionId) {g : Outlet σ α → β}
    (h : ∀ outlet, g outlet.close = g outlet) :
    (registry.unregister id).1.outlets.map g = registry.outlets.map g := by
  unfold unregister
  split
  · rfl
  · exact registry.map_adjust _ h

theorem waiting_unregister (registry : Registry σ α) (id : SessionId) :
    (registry.unregister id).1.waiting = registry.waiting := by
  funext number
  rw [waiting, waiting, registry.unregister_outlets id Outlet.waiting_close]

theorem length_unregister (registry : Registry σ α) (id : SessionId) :
    (registry.unregister id).1.outlets.length = registry.outlets.length := by
  simpa using congrArg List.length
    (registry.unregister_outlets id (g := fun _ => ()) fun _ => rfl)

theorem map_register {β : Type} (registry : Registry σ α) (id : SessionId)
    {outlet : Outlet σ α} {g : Outlet σ α → β}
    (h : g outlet.close = g outlet) :
    (registry.register id outlet).1.outlets.map g =
      registry.outlets.map g ++ [g outlet] := by
  rcases registry.register_cases id outlet with ⟨-, heq⟩ | ⟨-, heq⟩ <;>
    simp [heq, h]

theorem waiting_register (registry : Registry σ α) (id : SessionId)
    {outlet : Outlet σ α} (h : outlet.waiting = []) :
    (registry.register id outlet).1.waiting = registry.waiting := by
  funext number
  rw [waiting, waiting, registry.map_register id outlet.waiting_close, h]
  rcases Nat.lt_trichotomy number registry.outlets.length with
    hlt | heq | hgt
  · rw [List.getElem?_append_left (by simpa using hlt)]
  · simp [heq]
  · rw [List.getElem?_eq_none (by simp; omega),
      List.getElem?_eq_none (by simp; omega)]

theorem length_register_le (registry : Registry σ α) (id : SessionId)
    (outlet : Outlet σ α) : registry.outlets.length ≤
      (registry.register id outlet).1.outlets.length := by
  rcases registry.register_cases id outlet with ⟨-, heq⟩ | ⟨-, heq⟩ <;>
    simp [heq]

theorem length_offer (registry : Registry σ α) (number : Nat) (item : α) :
    (registry.offer number item).1.outlets.length =
      registry.outlets.length := by
  unfold offer
  split
  · rfl
  · exact List.length_set ..

namespace Numbered

variable {registry : Registry σ α}

theorem register (h : registry.Numbered) (id : SessionId)
    (outlet : Outlet σ α) : (registry.register id outlet).1.Numbered := by
  rcases registry.register_cases id outlet with ⟨hnew, heq⟩ | ⟨-, heq⟩
  · have hvalues := Keyed.values_put_of_not_contains
      registry.outlets.length hnew
    rw [heq]
    constructor
    · rw [hvalues, List.nodup_append]
      refine ⟨h.nodup, by simp, fun number hnumber other hother heq => ?_⟩
      have hrange := h.range number hnumber
      simp only [List.mem_singleton] at hother
      omega
    · intro number hnumber
      rw [hvalues, List.mem_append, List.mem_singleton] at hnumber
      rw [List.length_append, List.length_singleton]
      rcases hnumber with hnumber | hnumber
      · exact Nat.lt_succ_of_lt (h.range number hnumber)
      · omega
  · rw [heq]
    refine ⟨h.nodup, fun number hnumber => ?_⟩
    rw [List.length_append, List.length_singleton]
    exact Nat.lt_succ_of_lt (h.range number hnumber)

theorem erase (h : registry.Numbered) (id : SessionId) :
    Numbered { registry with table := registry.table.erase id } where
  nodup := h.nodup.sublist (registry.table.values_erase_sublist id)
  range number hnumber :=
    h.range number ((registry.table.values_erase_sublist id).subset hnumber)

theorem clear (registry : Registry σ α) : registry.clear.Numbered where
  nodup := List.nodup_nil
  range _ hnumber := absurd hnumber List.not_mem_nil

theorem of_outlets (h : registry.Numbered) {outlets : List (Outlet σ α)}
    (hlength : outlets.length = registry.outlets.length) :
    Numbered { registry with outlets } where
  nodup := h.nodup
  range number hnumber := hlength.symm ▸ h.range number hnumber

theorem adjust (h : registry.Numbered) (number : Nat)
    (f : Outlet σ α → Outlet σ α) : (registry.adjust number f).Numbered :=
  h.of_outlets (registry.length_adjust number f)

theorem offer (h : registry.Numbered) (number : Nat) (item : α) :
    (registry.offer number item).1.Numbered := by
  unfold Registry.offer
  split
  · exact h
  · exact h.of_outlets List.length_set

theorem unregister (h : registry.Numbered) (id : SessionId) :
    (registry.unregister id).1.Numbered := by
  have herase := h.erase id
  unfold Registry.unregister
  split
  · exact h
  · exact herase.adjust _ _

end Numbered

end Registry

namespace Fanout

variable (fanout : Fanout σ α) (outcome : Offer) (id : SessionId)
  (number : Nat) (item : α) (pending : List (SessionId × Nat))

@[simp]
theorem judge_registry :
    (fanout.judge outcome id number item pending).registry =
      fanout.registry := by
  cases outcome <;> rfl

@[simp]
theorem judge_source :
    (fanout.judge outcome id number item pending).source = fanout.source := by
  cases outcome <;> rfl

/-- After an offer the loop goes on with the other outlets, at once or after an
eviction. -/
theorem judge_loop :
    (fanout.judge outcome id number item pending).loop =
        some (.offering item pending) ∨
      (fanout.judge outcome id number item pending).loop =
        some (.evicting id item pending) := by
  cases outcome with
  | queued => exact Or.inl rfl
  | closed => exact Or.inr rfl
  | droppedOldest | droppedNewest =>
      simp only [judge]
      split
      · exact Or.inr rfl
      · exact Or.inl rfl

variable {fanout number}

/-- A step of a worker changes its outlet and nothing else of a fan-out. -/
theorem eq_of_work? [Sink σ ω α] {fanout' : Fanout σ α} {world world' : ω}
    (h : fanout.work? number world = some (fanout', world')) :
    ∃ outlet outlet', fanout.registry.outlets[number]? = some outlet ∧
      outlet.work? world = some (outlet', world') ∧
      fanout' = { fanout with registry := { fanout.registry with
        outlets := fanout.registry.outlets.set number outlet' } } := by
  obtain ⟨⟨registry, world₁⟩, hregistry, hfanout⟩ :=
    Option.bind_eq_some_iff.mp h
  obtain ⟨outlet, houtlet, hrest⟩ := Option.bind_eq_some_iff.mp hregistry
  obtain ⟨⟨outlet', world₂⟩, hwork, hset⟩ := Option.bind_eq_some_iff.mp hrest
  cases hset
  cases hfanout
  exact ⟨outlet, outlet', houtlet, hwork, rfl⟩

end Fanout

end LanRelay
