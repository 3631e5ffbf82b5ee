/-
Variable-length numbers are read back as they were written.
-/
import LanRelay.Wire.Varint
import Mathlib.Algebra.Group.Nat.Defs

namespace LanRelay.Wire

theorem writeVarint_of_lt {n : Nat} (h : n < 128) :
    writeVarint n = [UInt8.ofNat n] := by
  rw [writeVarint, if_pos h]

theorem writeVarint_of_ge {n : Nat} (h : 128 ≤ n) :
    writeVarint n = UInt8.ofNat (n % 128 + 128) :: writeVarint (n / 128) := by
  rw [writeVarint, if_neg (by omega)]

theorem writeVarint_ne_nil (n : Nat) : writeVarint n ≠ [] := by
  rw [writeVarint]
  split <;> simp

/-- So many bytes hold seven bits each. -/
theorem length_writeVarint_le {k n : Nat} (h : n < 128 ^ (k + 1)) :
    (writeVarint n).length ≤ k + 1 := by
  induction k generalizing n with
  | zero =>
      rw [writeVarint_of_lt (by simpa using h)]
      exact Nat.le_refl 1
  | succ k ih =>
      by_cases hshort : n < 128
      · rw [writeVarint_of_lt hshort, List.length_singleton]
        omega
      · have hhigh : n / 128 < 128 ^ (k + 1) := by
          rw [Nat.div_lt_iff_lt_mul (by decide), ← Nat.pow_succ]
          exact h
        rw [writeVarint_of_ge (by omega), List.length_cons]
        exact Nat.succ_le_succ (ih hhigh)

/-- The last of the bytes that there is room for holds one bit, the others hold
seven. -/
theorem readVarintWithin_append {room n : Nat} (h : n < 2 * 128 ^ room)
    (rest : Bytes) :
    readVarintWithin (room + 1) (writeVarint n ++ rest) = some (n, rest) := by
  induction room generalizing n with
  | zero =>
      have hbit : n = 0 ∨ n = 1 := by omega
      rcases hbit with rfl | rfl <;> simp [writeVarint, readVarintWithin]
  | succ room ih =>
      by_cases hshort : n < 128
      · have hbyte : UInt8.ofNat n < 128 := by
          rw [UInt8.lt_iff_toNat_lt, UInt8.toNat_ofNat']
          exact Nat.lt_of_le_of_lt (Nat.mod_le _ _) hshort
        have hvalue : (UInt8.ofNat n).toNat = n := by
          rw [UInt8.toNat_ofNat']
          omega
        simp [writeVarint_of_lt hshort, readVarintWithin, hbyte, hvalue]
      · have hvalue : (UInt8.ofNat (n % 128 + 128)).toNat = n % 128 + 128 := by
          rw [UInt8.toNat_ofNat']
          omega
        have hbyte : ¬UInt8.ofNat (n % 128 + 128) < 128 := by
          rw [UInt8.lt_iff_toNat_lt, hvalue]
          simp
        have hhigh : n / 128 < 2 * 128 ^ room := by
          rw [Nat.div_lt_iff_lt_mul (by decide), Nat.mul_assoc, ← Nat.pow_succ]
          exact h
        rw [writeVarint_of_ge (by omega), List.cons_append, readVarintWithin,
          if_neg hbyte, ih hhigh]
        simp only [hvalue, Option.some.injEq, Prod.mk.injEq, and_true]
        omega

theorem readVarint_append {n : Nat} (h : n < 18446744073709551616)
    (rest : Bytes) : readVarint (writeVarint n ++ rest) = some (n, rest) :=
  @readVarintWithin_append 9 n h rest

end LanRelay.Wire
