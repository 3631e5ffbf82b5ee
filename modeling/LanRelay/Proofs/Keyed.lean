/-
The entries of a finite map against what is found under its keys, and changes
of all values.

Main statements: `Keyed.mem_entries_iff` and `Keyed.mapValues_put`.
-/
import LanRelay.Keyed

namespace LanRelay

namespace Keyed

variable {κ α : Type}

theorem ext {map map' : Keyed κ α} (h : map.entries = map'.entries) :
    map = map' := by
  cases map
  cases map'
  cases h
  rfl

theorem mapValues_keepIf (map : Keyed κ α) {test : κ → α → Bool}
    {f : κ → α → α} (h : ∀ key value, test key (f key value) = test key value) :
    (map.keepIf test).mapValues f = (map.mapValues f).keepIf test := by
  apply ext
  simp only [keepIf, mapValues, List.filter_map, Function.comp_def, h]

theorem mapValues_mapValues (map : Keyed κ α) {f g f' g' : κ → α → α}
    (h : ∀ key value, g key (f key value) = g' key (f' key value)) :
    (map.mapValues f).mapValues g = (map.mapValues f').mapValues g' := by
  apply ext
  simp only [mapValues, List.map_map, Function.comp_def, h]

variable [DecidableEq κ]

theorem mapValues_put (map : Keyed κ α) (key : κ) (value : α)
    (f : κ → α → α) : (map.put key value).mapValues f =
      (map.mapValues f).put key (f key value) := by
  apply ext
  obtain ⟨entries, nodup⟩ := map
  simp only [put, mapValues]
  clear nodup
  induction entries with
  | nil => rfl
  | cons entry entries ih =>
      obtain ⟨k, v⟩ := entry
      by_cases hk : k = key
      · simp [putEntry, hk]
      · simpa [putEntry, hk] using ih

/-- A value stands in the map if and only if it is found under its key. -/
theorem mem_entries_iff {map : Keyed κ α} {key : κ} {value : α} :
    (key, value) ∈ map.entries ↔ map.get? key = some value := by
  obtain ⟨entries, nodup⟩ := map
  simp only [get?]
  induction entries with
  | nil => simp
  | cons entry entries ih =>
      obtain ⟨k, v⟩ := entry
      rw [List.map_cons, List.nodup_cons] at nodup
      by_cases hk : k = key
      · subst hk
        have hnew : (k, value) ∉ entries := fun hmem =>
          nodup.1 (List.mem_map.mpr ⟨_, hmem, rfl⟩)
        simp [hnew, eq_comm]
      · have hne : (key, value) ≠ (k, v) := fun heq =>
          hk (Prod.mk.inj heq).1.symm
        simpa [hk, hne] using ih nodup.2

end Keyed

end LanRelay
