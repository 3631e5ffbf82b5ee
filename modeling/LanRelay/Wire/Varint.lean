/-
Variable-length numbers: seven bits a byte, the lowest first, and a high bit
on every byte but the last.

A number below 2^64 takes at most ten bytes, and the tenth holds one bit.
Longer spellings than needed are read too. Main statement: reading consumes at
least one byte.
-/
import LanRelay.Bytes

namespace LanRelay.Wire

/-- Read a number of at most `room` bytes, the tenth of ten bytes being at
most one. -/
def readVarintWithin : (room : Nat) → Bytes → Option (Nat × Bytes)
  | 0, _ => none
  | _ + 1, [] => none
  | room + 1, b :: rest =>
      if b < 128 then
        if room = 0 ∧ 2 ≤ b then none else some (b.toNat, rest)
      else
        match readVarintWithin room rest with
        | none => none
        | some (high, rest) => some (b.toNat - 128 + 128 * high, rest)

/-- Read a number below 2^64. -/
def readVarint (bytes : Bytes) : Option (Nat × Bytes) :=
  readVarintWithin 10 bytes

/-- The shortest spelling of a number. -/
def writeVarint (n : Nat) : Bytes :=
  if n < 128 then [UInt8.ofNat n]
  else UInt8.ofNat (n % 128 + 128) :: writeVarint (n / 128)

theorem readVarintWithin_length_lt {room : Nat} {bytes rest : Bytes} {n : Nat}
    (h : readVarintWithin room bytes = some (n, rest)) :
    rest.length < bytes.length := by
  induction room generalizing bytes n with
  | zero => simp [readVarintWithin] at h
  | succ room ih =>
      cases bytes with
      | nil => simp [readVarintWithin] at h
      | cons b bytes =>
          simp only [readVarintWithin] at h
          split at h
          · split at h
            · cases h
            · cases h
              simp
          · split at h
            · cases h
            · rename_i hread
              cases h
              exact Nat.lt_succ_of_lt (ih hread)

theorem readVarint_length_lt {bytes rest : Bytes} {n : Nat}
    (h : readVarint bytes = some (n, rest)) : rest.length < bytes.length :=
  readVarintWithin_length_lt h

end LanRelay.Wire
