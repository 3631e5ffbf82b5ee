/-
Finite maps: a list of entries in which every key stands once.

Main statements: what `get?` finds after each of the operations.
-/
namespace LanRelay

/-- A finite map. Entries keep the order in which their keys first came. -/
structure Keyed (κ α : Type) where
  entries : List (κ × α)
  nodup : (entries.map Prod.fst).Nodup

namespace Keyed

variable {κ α : Type} [DecidableEq κ]

def empty : Keyed κ α := ⟨[], by simp⟩

instance : Inhabited (Keyed κ α) := ⟨⟨[], by simp⟩⟩

def keys (map : Keyed κ α) : List κ := map.entries.map Prod.fst

def values (map : Keyed κ α) : List α := map.entries.map Prod.snd

def size (map : Keyed κ α) : Nat := map.entries.length

def get? (map : Keyed κ α) (key : κ) : Option α :=
  (map.entries.find? (·.1 = key)).map Prod.snd

def contains (map : Keyed κ α) (key : κ) : Bool := (map.get? key).isSome

/-- Put a value in the place of the one with the same key, or at the end. -/
def putEntry (key : κ) (value : α) : List (κ × α) → List (κ × α)
  | [] => [(key, value)]
  | (k, v) :: entries =>
      if k = key then (k, value) :: entries
      else (k, v) :: putEntry key value entries

theorem keys_putEntry (key : κ) (value : α) (entries : List (κ × α)) :
    (putEntry key value entries).map Prod.fst =
      if key ∈ entries.map Prod.fst then entries.map Prod.fst
      else entries.map Prod.fst ++ [key] := by
  induction entries with
  | nil => rfl
  | cons entry entries ih =>
      obtain ⟨k, v⟩ := entry
      by_cases hk : k = key
      · simp [putEntry, hk]
      · have hne : key ≠ k := fun h => hk h.symm
        simp only [putEntry, if_neg hk, List.map_cons, List.mem_cons, hne,
          false_or, ih]
        split <;> simp

/-- The map with a value under a key. -/
def put (map : Keyed κ α) (key : κ) (value : α) : Keyed κ α where
  entries := putEntry key value map.entries
  nodup := by
    rw [keys_putEntry]
    split
    · exact map.nodup
    · rename_i hnew
      rw [List.nodup_append]
      refine ⟨map.nodup, by simp, ?_⟩
      intro a ha b hb hab
      simp only [List.mem_singleton] at hb
      exact hnew (hb ▸ hab ▸ ha)

/-- The entries for which a test holds. -/
def keepIf (map : Keyed κ α) (test : κ → α → Bool) : Keyed κ α where
  entries := map.entries.filter fun (k, v) => test k v
  nodup := map.nodup.sublist (List.filter_sublist.map Prod.fst)

/-- The map without a key. -/
def erase (map : Keyed κ α) (key : κ) : Keyed κ α :=
  map.keepIf fun k _ => k ≠ key

/-- Change every value; the keys stay. -/
def mapValues (map : Keyed κ α) (f : κ → α → α) : Keyed κ α where
  entries := map.entries.map fun (k, v) => (k, f k v)
  nodup := by
    have h : (map.entries.map fun (k, v) => (k, f k v)).map Prod.fst =
        map.entries.map Prod.fst := by simp
    rw [h]
    exact map.nodup

/-- Change the value under a key, if there is one. -/
def adjust (map : Keyed κ α) (key : κ) (f : α → α) : Keyed κ α :=
  map.mapValues fun k v => if k = key then f v else v

theorem get?_put (map : Keyed κ α) (key other : κ) (value : α) :
    (map.put key value).get? other =
      if other = key then some value else map.get? other := by
  obtain ⟨entries, nodup⟩ := map
  simp only [get?, put]
  clear nodup
  induction entries with
  | nil =>
      by_cases h : other = key
      · simp [putEntry, h]
      · simp [putEntry, h, Ne.symm h]
  | cons entry entries ih =>
      obtain ⟨k, v⟩ := entry
      by_cases hk : k = key
      · by_cases ho : other = key
        · simp [putEntry, hk, ho]
        · have hko : k ≠ other := fun h => ho (h ▸ hk)
          simp [putEntry, hk, ho, Ne.symm ho]
      · by_cases ho : k = other
        · have hne : other ≠ key := fun h => hk (ho.trans h)
          simp [putEntry, ho, hne]
        · simp only [putEntry, if_neg hk]
          simpa [List.find?_cons, ho] using ih

theorem get?_empty (key : κ) : (empty : Keyed κ α).get? key = none := rfl

theorem get?_keepIf (map : Keyed κ α) (test : κ → α → Bool) (key : κ) :
    (map.keepIf test).get? key = (map.get? key).filter (test key) := by
  obtain ⟨entries, nodup⟩ := map
  simp only [get?, keepIf]
  induction entries with
  | nil => rfl
  | cons entry entries ih =>
      obtain ⟨k, v⟩ := entry
      rw [List.map_cons, List.nodup_cons] at nodup
      have htail := ih nodup.2
      by_cases hk : k = key
      · subst hk
        have hnone : entries.find? (·.1 = k) = none := by
          rw [List.find?_eq_none]
          intro entry hentry hkey
          exact nodup.1 (List.mem_map.mpr ⟨entry, hentry, by simpa using hkey⟩)
        rw [hnone] at htail
        by_cases ht : test k v
        · simp [ht, Option.filter]
        · rw [List.filter_cons_of_neg (by simpa using ht), htail]
          simp [ht, Option.filter]
      · by_cases ht : test k v <;> simpa [ht, hk] using htail

theorem get?_erase (map : Keyed κ α) (key other : κ) :
    (map.erase key).get? other =
      if other = key then none else map.get? other := by
  rw [erase, get?_keepIf]
  by_cases h : other = key <;> cases map.get? other <;> simp [h]

theorem get?_mapValues (map : Keyed κ α) (f : κ → α → α) (key : κ) :
    (map.mapValues f).get? key = (map.get? key).map (f key) := by
  obtain ⟨entries, nodup⟩ := map
  simp only [get?, mapValues]
  clear nodup
  induction entries with
  | nil => rfl
  | cons entry entries ih =>
      obtain ⟨k, v⟩ := entry
      by_cases hk : k = key
      · simp [hk]
      · simpa [hk] using ih

theorem get?_adjust (map : Keyed κ α) (key other : κ) (f : α → α) :
    (map.adjust key f).get? other =
      if other = key then (map.get? other).map f else map.get? other := by
  rw [adjust, get?_mapValues]
  by_cases h : other = key <;> cases map.get? other <;> simp [h]

end Keyed

end LanRelay
