/-
The order in which endpoints are listed.

Main statements: `Endpoint.pairwise_sortDistinct`, by which a sorted list goes
strictly upwards, and `Endpoint.mem_sortDistinct`.
-/
import LanRelay.Net.Address

namespace LanRelay

theorem Ipv4.key_injective {x y : Ipv4} (h : x.key = y.key) : x = y := by
  obtain ⟨a, b, c, d⟩ := x
  obtain ⟨a', b', c', d'⟩ := y
  simpa [key, UInt8.toNat_inj] using h

theorem Ipv6.key_injective {x y : Ipv6} (h : x.key = y.key) : x = y := by
  have hgroups : x.groups = y.groups :=
    (List.map_inj_right fun _ _ => UInt16.toNat_inj.mp).mp h
  cases x
  cases y
  simpa using hgroups

namespace Endpoint

/-- Endpoints that stand at the same place in a list are the same. -/
theorem key_injective {x y : Endpoint} (h : x.key = y.key) : x = y := by
  cases x with
  | v4 x =>
      cases y with
      | v4 y =>
          obtain ⟨ip, port⟩ := x
          obtain ⟨ip', port'⟩ := y
          have hkeys : ip.key ++ [port.toNat] = ip'.key ++ [port'.toNat] :=
            List.tail_eq_of_cons_eq h
          obtain ⟨hip, hport⟩ := List.append_inj' hkeys rfl
          simp only [List.cons.injEq, UInt16.toNat_inj, and_true] at hport
          rw [Ipv4.key_injective hip, hport]
      | v6 ip port scope => cases h
  | v6 ip port scope =>
      cases y with
      | v4 y => cases h
      | v6 ip' port' scope' =>
          have hkeys : ip.key ++ [port.toNat, scope.toNat] =
              ip'.key ++ [port'.toNat, scope'.toNat] :=
            List.tail_eq_of_cons_eq h
          obtain ⟨hip, hrest⟩ := List.append_inj' hkeys rfl
          simp only [List.cons.injEq, UInt16.toNat_inj, UInt32.toNat_inj,
            and_true] at hrest
          rw [Ipv6.key_injective hip, hrest.1, hrest.2]

theorem before_iff {x y : Endpoint} : x.before y ↔ x.key < y.key :=
  decide_eq_true_iff

theorem before_trans {x y z : Endpoint} (hxy : x.before y)
    (hyz : y.before z) : x.before z :=
  before_iff.mpr (List.lt_trans (before_iff.mp hxy) (before_iff.mp hyz))

theorem not_before_self (x : Endpoint) : ¬ x.before x :=
  fun h => List.lt_irrefl x.key (before_iff.mp h)

theorem mem_of_mem_insert {x z : Endpoint} {ys : List Endpoint}
    (h : z ∈ insert x ys) : z = x ∨ z ∈ ys := by
  induction ys with
  | nil => exact Or.inl (List.mem_singleton.mp h)
  | cons y ys ih =>
      rw [insert] at h
      split at h
      · exact List.mem_cons.mp h
      · split at h
        · rcases List.mem_cons.mp h with rfl | hrest
          · exact Or.inr List.mem_cons_self
          · exact (ih hrest).imp_right (List.mem_cons_of_mem y)
        · exact Or.inr h

/-- An endpoint is put into a list, or stands there already. -/
theorem mem_insert {x z : Endpoint} {ys : List Endpoint} :
    z ∈ insert x ys ↔ z = x ∨ z ∈ ys := by
  refine ⟨mem_of_mem_insert, ?_⟩
  induction ys with
  | nil => simp [insert]
  | cons y ys ih =>
      intro h
      rw [insert]
      split
      · exact List.mem_cons.mpr h
      · rename_i hxy
        split
        · rcases h with rfl | h
          · exact List.mem_cons_of_mem y (ih (Or.inl rfl))
          · rcases List.mem_cons.mp h with rfl | h
            · exact List.mem_cons_self
            · exact List.mem_cons_of_mem y (ih (Or.inr h))
        · rename_i hyx
          rw [before_iff] at hxy hyx
          have hsame : x = y := key_injective (List.le_antisymm hyx hxy)
          rcases h with rfl | h
          · rw [hsame]
            exact List.mem_cons_self
          · exact h

theorem pairwise_insert (x : Endpoint) {ys : List Endpoint}
    (h : ys.Pairwise (before · ·)) : (insert x ys).Pairwise (before · ·) := by
  induction ys with
  | nil => exact List.pairwise_singleton _ x
  | cons y ys ih =>
      obtain ⟨hfirst, hrest⟩ := List.pairwise_cons.mp h
      rw [insert]
      split
      · rename_i hxy
        refine List.pairwise_cons.mpr ⟨fun z hz => ?_, h⟩
        rcases List.mem_cons.mp hz with rfl | hz
        · exact hxy
        · exact before_trans hxy (hfirst z hz)
      · split
        · rename_i hyx
          refine List.pairwise_cons.mpr ⟨fun z hz => ?_, ih hrest⟩
          rcases mem_of_mem_insert hz with rfl | hz
          · exact hyx
          · exact hfirst z hz
        · exact h

theorem pairwise_sortDistinct (xs : List Endpoint) :
    (sortDistinct xs).Pairwise (before · ·) := by
  induction xs with
  | nil => exact List.Pairwise.nil
  | cons x xs ih => exact pairwise_insert x ih

theorem nodup_sortDistinct (xs : List Endpoint) :
    (sortDistinct xs).Nodup := by
  refine (pairwise_sortDistinct xs).imp ?_
  rintro x y hbefore rfl
  exact not_before_self x hbefore

theorem mem_of_mem_sortDistinct {x : Endpoint} {xs : List Endpoint}
    (h : x ∈ sortDistinct xs) : x ∈ xs := by
  induction xs with
  | nil => exact h
  | cons y ys ih =>
      rcases mem_of_mem_insert h with rfl | hrest
      · exact List.mem_cons_self
      · exact List.mem_cons_of_mem y (ih hrest)

theorem mem_sortDistinct {x : Endpoint} {xs : List Endpoint} :
    x ∈ sortDistinct xs ↔ x ∈ xs := by
  refine ⟨mem_of_mem_sortDistinct, fun h => ?_⟩
  induction xs with
  | nil => exact h
  | cons y ys ih =>
      rcases List.mem_cons.mp h with rfl | h
      · exact mem_insert.mpr (Or.inl rfl)
      · exact mem_insert.mpr (Or.inr (ih h))

theorem ip_ofIp (ip : IpAddr) (port : UInt16) : (ofIp ip port).ip = ip := by
  cases ip <;> rfl

theorem port_ofIp (ip : IpAddr) (port : UInt16) :
    (ofIp ip port).port = port := by
  cases ip <;> rfl

end Endpoint

end LanRelay
