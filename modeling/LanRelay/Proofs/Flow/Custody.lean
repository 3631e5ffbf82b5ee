/-
Who has the outlets of a registry.

An outlet comes into the table when it is registered, and leaves it when its
session is removed, when the loop evicts it, or when a shutdown takes out all
there are. One that is refused never comes in. Whoever takes an outlet out of
the table closes it, and its worker then comes to its end.

Main statements: `Registry.lawful`, which says what registering and removing
come to, `Registry.Keeps` with the operations that keep to it, and
`Outlet.drains_of_isClosed`.
-/
import LanRelay.Proofs.Flow.Ownership
import LanRelay.Proofs.Flow.Worker
import LanRelay.Proofs.Keyed

namespace LanRelay

variable {σ ω α : Type}

theorem Keyed.mem_values_iff {κ β : Type} [DecidableEq κ] {map : Keyed κ β}
    {value : β} :
    value ∈ map.values ↔ ∃ key, map.get? key = some value := by
  constructor
  · intro h
    obtain ⟨⟨key, _⟩, hentry, rfl⟩ := List.mem_map.mp h
    exact ⟨key, Keyed.mem_entries_iff.mp hentry⟩
  · rintro ⟨key, hkey⟩
    exact List.mem_map.mpr ⟨(key, value), Keyed.mem_entries_iff.mpr hkey, rfl⟩

/-- A value that is put under a new key and removed leaves the map as it
was. -/
theorem Keyed.erase_put {κ β : Type} [DecidableEq κ] {map : Keyed κ β}
    {key : κ} (value : β) (h : map.contains key = false) :
    (map.put key value).erase key = map := by
  have hnew : key ∉ map.entries.map Prod.fst := not_mem_keys_of_not_contains h
  have hothers : ∀ entry ∈ map.entries, entry.1 ≠ key := by
    rintro entry hentry rfl
    exact hnew (List.mem_map_of_mem hentry)
  apply Keyed.ext
  simp only [erase, keepIf, put, putEntry_of_not_mem value hnew,
    List.filter_append]
  simpa using hothers

/-! Closed outlets. -/

/-- The outlet takes no more items, and its worker is done, waits for its sink,
or takes one of the steps that it has left. -/
def Outlet.Drains [Sink σ ω α] (outlet : Outlet σ α) : Prop :=
  outlet.isClosed = true ∧ ∀ world : ω,
    match outlet.work? world with
    | none => outlet.hasEnded = true ∨ ∃ item, outlet.phase = .writing item ∧
        Sink.write item (outlet.sink, world) = none
    | some result =>
        result.1.isClosed = true ∧ result.1.toDo < outlet.toDo

theorem Outlet.drains_of_isClosed [Sink σ ω α] {outlet : Outlet σ α}
    (h : outlet.isClosed = true) : outlet.Drains := by
  refine ⟨h, fun world => ?_⟩
  cases hwork : outlet.work? world with
  | some result =>
      have hworks := works_of_work? hwork
      exact ⟨hworks.isClosed h, hworks.toDo_lt⟩
  | none =>
      rcases work?_eq_none_iff.mp hwork with hended | ⟨-, -, hopen⟩ | hwaits
      · exact Or.inl hended
      · rw [h] at hopen
        cases hopen
      · exact Or.inr hwaits

namespace Registry

variable {registry registry' registry'' : Registry σ α}

/-! Registering and removing. -/

/-- What registering and removing come to. -/
structure Lawful (registry : Registry σ α) : Prop where
  register_ok (id : SessionId) (outlet : Outlet σ α) :
    (∃ number, (registry.register id outlet).2 = .ok number) ↔
      registry.contains id = false
  table_register (id : SessionId) (outlet : Outlet σ α) :
    (registry.register id outlet).1.table =
      if registry.contains id then registry.table
      else registry.table.put id registry.outlets.length
  outlets_register (id : SessionId) (outlet : Outlet σ α) :
    (registry.register id outlet).1.outlets = registry.outlets ++
      [if registry.contains id then outlet.close else outlet]
  unregister_true (id : SessionId) :
    (registry.unregister id).2 = true ↔ registry.contains id = true
  get?_unregister (id other : SessionId) :
    (registry.unregister id).1.table.get? other =
      if other = id then none else registry.table.get? other
  unregister_again (id : SessionId) :
    (registry.unregister id).1.unregister id =
      ((registry.unregister id).1, false)

theorem register_snd_of_contains {id : SessionId} (outlet : Outlet σ α)
    (h : registry.contains id = true) : (registry.register id outlet).2 =
      .error (.alreadyRegistered registry.stream id) := by
  rw [register, if_pos h]

theorem register_snd_of_not_contains {id : SessionId} (outlet : Outlet σ α)
    (h : registry.contains id = false) :
    (registry.register id outlet).2 = .ok registry.outlets.length := by
  rw [register, h]
  rfl

theorem table_of_register_error {id : SessionId} {outlet : Outlet σ α}
    {fault : RegistryFault}
    (h : registry.register id outlet = (registry', .error fault)) :
    registry.contains id = true ∧ registry'.table = registry.table := by
  cases hid : registry.contains id with
  | true =>
      rw [register, if_pos hid] at h
      cases h
      exact ⟨rfl, rfl⟩
  | false =>
      have hok := register_snd_of_not_contains outlet hid
      rw [h] at hok
      cases hok

theorem table_of_register_ok {id : SessionId} {outlet : Outlet σ α}
    {number : Nat} (h : registry.register id outlet = (registry', .ok number)) :
    registry.contains id = false ∧
      registry'.table = registry.table.put id registry.outlets.length := by
  cases hid : registry.contains id with
  | true =>
      have herror := register_snd_of_contains outlet hid
      rw [h] at herror
      cases herror
  | false =>
      rw [register, if_neg (by simp [hid])] at h
      cases h
      exact ⟨rfl, rfl⟩

theorem unregister_of_not_contains {id : SessionId}
    (h : registry.contains id = false) :
    registry.unregister id = (registry, false) := by
  have hnone : registry.table.get? id = none := by
    simpa [contains, Keyed.contains] using h
  rw [unregister, hnone]

theorem unregister_of_get? {id : SessionId} {number : Nat}
    (h : registry.table.get? id = some number) :
    registry.unregister id =
      ({ registry.adjust number Outlet.close with
          table := registry.table.erase id },
        true) := by
  rw [unregister, h]

theorem lawful (registry : Registry σ α) : registry.Lawful where
  register_ok id outlet := by
    cases hid : registry.contains id with
    | true => simp [register_snd_of_contains outlet hid]
    | false => simp [register_snd_of_not_contains outlet hid]
  table_register id outlet := by
    cases hid : registry.contains id <;> simp [register, hid]
  outlets_register id outlet := by
    cases hid : registry.contains id <;> simp [register, hid]
  unregister_true id := by
    cases hid : registry.table.get? id <;>
      simp [unregister, contains, Keyed.contains, hid]
  get?_unregister id other := by
    rw [table_unregister]
    exact Keyed.get?_erase ..
  unregister_again id := unregister_of_not_contains (contains_unregister id)

/-! Outlets that are out of the table. -/

/-- Every outlet is in the table, or has been taken out of it to be closed, or
is closed. -/
def Accounted (registry : Registry σ α) (taken : List Nat) : Prop :=
  ∀ number outlet, registry.outlets[number]? = some outlet →
    number ∈ registry.table.values ∨ number ∈ taken ∨ outlet.isClosed = true

/-- Every outlet stays and does not open again, and none is let out of the
table that is neither closed nor taken to be closed. -/
structure Keeps (taken taken' : List Nat) (registry registry' : Registry σ α) :
    Prop where
  stays (number : Nat) (outlet : Outlet σ α) :
    registry.outlets[number]? = some outlet →
      ∃ outlet', registry'.outlets[number]? = some outlet' ∧
        (outlet.isClosed = true → outlet'.isClosed = true)
  accounted : registry.Accounted taken → registry'.Accounted taken'

variable {taken taken' taken'' : List Nat}

namespace Keeps

theorem refl (taken : List Nat) (registry : Registry σ α) :
    Keeps taken taken registry registry :=
  ⟨fun _ outlet houtlet => ⟨outlet, houtlet, id⟩, id⟩

theorem trans (h : Keeps taken taken' registry registry')
    (h' : Keeps taken' taken'' registry' registry'') :
    Keeps taken taken'' registry registry'' where
  stays number outlet houtlet := by
    obtain ⟨outlet', houtlet', hclosed⟩ := h.stays number outlet houtlet
    obtain ⟨outlet'', houtlet'', hclosed'⟩ := h'.stays number outlet' houtlet'
    exact ⟨outlet'', houtlet'', hclosed' ∘ hclosed⟩
  accounted haccounted := h'.accounted (h.accounted haccounted)

/-- Whose an outlet is does not matter here. -/
theorem of_tended (h : Tended (fun _ => some 0) registry registry') :
    Keeps taken taken registry registry' where
  stays number outlet houtlet := by
    obtain ⟨outlet', houtlet', hlater⟩ := (h.ages 0).kept houtlet
    exact ⟨outlet', houtlet', hlater.isClosed⟩
  accounted haccounted number outlet' houtlet' := by
    obtain ⟨outlet, houtlet, -⟩ := (h.ages 0).old houtlet' rfl
    rcases haccounted number outlet houtlet with hlisted | htaken | hclosed
    · obtain ⟨id, hid⟩ := Keyed.mem_values_iff.mp hlisted
      rcases (h.stays id).left hid with hstill | hleft
      · exact Or.inl (Keyed.mem_values_iff.mpr ⟨id, hstill⟩)
      · exact Or.inr (Or.inr (hleft outlet' houtlet'))
    · exact Or.inr (Or.inl htaken)
    · obtain ⟨later, hsame, hlater⟩ := (h.ages 0).kept houtlet
      obtain rfl := Option.some.inj (hsame.symm.trans houtlet')
      exact Or.inr (Or.inr (hlater.isClosed hclosed))

/-- An outlet that is handed to the registry is in the table or closed. -/
theorem register (taken : List Nat) (registry : Registry σ α) (id : SessionId)
    (outlet : Outlet σ α) :
    Keeps taken taken registry (registry.register id outlet).1 where
  stays number before hbefore := by
    refine ⟨before, ?_, fun hclosed => hclosed⟩
    rcases registry.register_cases id outlet with ⟨-, heq⟩ | ⟨-, heq⟩ <;>
      rw [heq] <;> exact getElem?_concat_eq_some.mpr (Or.inl hbefore)
  accounted haccounted number before hbefore := by
    rcases registry.register_cases id outlet with ⟨habsent, heq⟩ | ⟨-, heq⟩
    · rw [heq] at hbefore ⊢
      rw [Keyed.values_put_of_not_contains _ habsent, List.mem_append]
      rcases getElem?_concat_eq_some.mp hbefore with hold | ⟨rfl, -⟩
      · exact (haccounted number before hold).imp_left Or.inl
      · exact Or.inl (Or.inr List.mem_cons_self)
    · rw [heq] at hbefore ⊢
      rcases getElem?_concat_eq_some.mp hbefore with hold | ⟨-, rfl⟩
      · exact haccounted number before hold
      · exact Or.inr (Or.inr rfl)

/-- What is taken out is to be closed. -/
theorem clear (registry : Registry σ α) :
    Keeps [] registry.table.values registry registry.clear where
  stays _ outlet houtlet := ⟨outlet, houtlet, id⟩
  accounted haccounted number outlet houtlet := by
    rcases haccounted number outlet houtlet with hlisted | htaken | hclosed
    · exact Or.inr (Or.inl hlisted)
    · cases htaken
    · exact Or.inr (Or.inr hclosed)

/-- One that is closed need not be closed any more. -/
theorem settle {number : Nat}
    (h : ∀ outlet, registry.outlets[number]? = some outlet →
      outlet.isClosed = true) :
    Keeps (number :: taken) taken registry registry where
  stays _ outlet houtlet := ⟨outlet, houtlet, fun hclosed => hclosed⟩
  accounted haccounted other outlet houtlet := by
    rcases haccounted other outlet houtlet with hlisted | htaken | hclosed
    · exact Or.inl hlisted
    · rcases List.mem_cons.mp htaken with rfl | hrest
      · exact Or.inr (Or.inr (h outlet houtlet))
      · exact Or.inr (Or.inl hrest)
    · exact Or.inr (Or.inr hclosed)

end Keeps

/-- Closing outlets one after the other closes them all. -/
theorem getElem?_foldl_close (numbers : List Nat) (registry : Registry σ α)
    (number : Nat) :
    (numbers.foldl (fun registry number => registry.adjust number Outlet.close)
        registry).outlets[number]? =
      (registry.outlets[number]?).map fun outlet =>
        if number ∈ numbers then outlet.close else outlet := by
  induction numbers generalizing registry with
  | nil => simp
  | cons first numbers ih =>
      rw [List.foldl_cons, ih]
      by_cases hfirst : first = number
      · subst hfirst
        simp only [adjust, List.getElem?_modify_eq, List.mem_cons_self, if_true]
        cases registry.outlets[first]? with
        | none => rfl
        | some outlet =>
            simp only [Option.map_some]
            split <;> rfl
      · simp [adjust, hfirst, Ne.symm hfirst]

theorem Keeps.closeAll (taken : List Nat) (registry : Registry σ α) :
    Keeps taken taken registry registry.closeAll where
  stays number outlet houtlet := by
    rw [Registry.closeAll, getElem?_foldl_close, Registry.clear, houtlet]
    refine ⟨_, rfl, fun hclosed => ?_⟩
    split
    · rfl
    · exact hclosed
  accounted haccounted number outlet' houtlet' := by
    rw [Registry.closeAll, getElem?_foldl_close] at houtlet'
    obtain ⟨outlet, houtlet, rfl⟩ := Option.map_eq_some_iff.mp houtlet'
    rcases haccounted number outlet houtlet with hlisted | htaken | hclosed
    · rw [if_pos hlisted]
      exact Or.inr (Or.inr rfl)
    · exact Or.inr (Or.inl htaken)
    · split
      · exact Or.inr (Or.inr rfl)
      · exact Or.inr (Or.inr hclosed)

end Registry

end LanRelay
