/-
How long a message can become when it is written again.

The weight of a message is the number of bytes that its fields take when each
of them is written once, and as short as it can be. No field that is read adds
more to the weight than the bytes that it uses up: a number may be spelt longer
than needed, an unknown field adds nothing, and what comes again replaces what
came before or is added to it under one length.

Main statement: `Schema.Weighs.read`.
-/
import LanRelay.Proofs.Wire.Remainder

namespace LanRelay.Wire

/-! The length of a number. -/

theorem length_writeVarint_pos (n : Nat) : 0 < (writeVarint n).length :=
  List.length_pos_iff.mpr (writeVarint_ne_nil n)

/-- Seven bits more take one byte more. -/
theorem length_writeVarint_le_div (n : Nat) :
    (writeVarint n).length ≤ (writeVarint (n / 128)).length + 1 := by
  by_cases hshort : n < 128
  · rw [writeVarint_of_lt hshort, List.length_singleton]
    omega
  · apply Nat.le_of_eq
    rw [writeVarint_of_ge (by omega), List.length_cons]

theorem length_writeVarint_mono {m n : Nat} (h : m ≤ n) :
    (writeVarint m).length ≤ (writeVarint n).length := by
  induction n using Nat.strongRecOn generalizing m with
  | ind n ih =>
      by_cases hshort : m < 128
      · rw [writeVarint_of_lt hshort, List.length_singleton]
        exact length_writeVarint_pos n
      · have hlong : 128 ≤ m := by omega
        have hhigh : (writeVarint (m / 128)).length ≤
            (writeVarint (n / 128)).length :=
          ih (n / 128) (by omega) (Nat.div_le_div_right h)
        rw [writeVarint_of_ge hlong, writeVarint_of_ge (Nat.le_trans hlong h),
          List.length_cons, List.length_cons]
        exact Nat.succ_le_succ hhigh

/-- A sum takes no more bytes than its parts. -/
theorem length_writeVarint_add_le (m n : Nat) :
    (writeVarint (m + n)).length ≤
      (writeVarint m).length + (writeVarint n).length := by
  have hdouble (k : Nat) :
      (writeVarint (k + k)).length ≤ (writeVarint k).length + 1 := by
    have hhigh := length_writeVarint_le_div (k + k)
    have hmono : (writeVarint ((k + k) / 128)).length ≤
        (writeVarint k).length :=
      length_writeVarint_mono (by omega)
    omega
  have hm := length_writeVarint_pos m
  have hn := length_writeVarint_pos n
  rcases Nat.le_total m n with hle | hle
  · have hsum : (writeVarint (m + n)).length ≤ (writeVarint (n + n)).length :=
      length_writeVarint_mono (by omega)
    have htwice := hdouble n
    omega
  · have hsum : (writeVarint (m + n)).length ≤ (writeVarint (m + m)).length :=
      length_writeVarint_mono (by omega)
    have htwice := hdouble m
    omega

/-- No spelling of a number is shorter than the one that is written. -/
theorem length_writeVarint_le_read {room n : Nat} {bytes rest : Bytes}
    (h : readVarintWithin room bytes = some (n, rest)) :
    (writeVarint n).length + rest.length ≤ bytes.length := by
  induction room generalizing bytes n with
  | zero => cases h
  | succ room ih =>
      cases bytes with
      | nil => cases h
      | cons b bytes =>
          simp only [readVarintWithin] at h
          split at h
          · rename_i hlast
            split at h
            · cases h
            · cases h
              rw [writeVarint_of_lt (UInt8.lt_iff_toNat_lt.mp hlast),
                List.length_singleton, List.length_cons]
              omega
          · split at h
            · cases h
            · rename_i high tail hread
              cases h
              have hbyte := b.toNat_lt
              have hhigh := ih hread
              have hlength :=
                length_writeVarint_le_div (b.toNat - 128 + 128 * high)
              rw [show (b.toNat - 128 + 128 * high) / 128 = high by omega]
                at hlength
              rw [List.length_cons]
              omega

theorem readNumber_length_le {bytes rest : Bytes} {n : Nat}
    (h : readNumber bytes = .ok (n, rest)) :
    (writeVarint n).length + rest.length ≤ bytes.length :=
  length_writeVarint_le_read (readNumber_eq_ok_iff.mp h)

/-! The length of a field. -/

theorem length_writeNumber_le_writeVarint {number : Nat} (h : number < 16)
    {m n : Nat} (hle : m ≤ n) :
    (writeNumber number m).length ≤ (writeVarint n).length + 1 := by
  have hmono := length_writeVarint_mono hle
  rw [writeNumber]
  split
  · exact Nat.zero_le _
  · rw [List.length_append, length_writeKey h]
    omega

/-- How many bytes a value of this length takes with its key and its length in
front. -/
def delimitedLength (length : Nat) : Nat :=
  1 + (writeVarint length).length + length

theorem length_writeDelimited {number : Nat} (h : number < 16)
    (value : Bytes) :
    (writeDelimited number value).length = delimitedLength value.length := by
  rw [writeDelimited, List.length_append, List.length_append,
    length_writeKey h, delimitedLength]

theorem length_writeBytes_le_delimitedLength {number : Nat} (h : number < 16)
    (value : Bytes) :
    (writeBytes number value).length ≤ delimitedLength value.length := by
  rw [writeBytes]
  split
  · exact Nat.zero_le _
  · exact Nat.le_of_eq (length_writeDelimited h value)

theorem delimitedLength_of_lt {length : Nat} (h : length < 128) :
    delimitedLength length = length + 2 := by
  rw [delimitedLength, writeVarint_of_lt h, List.length_singleton]
  omega

theorem add_two_le_delimitedLength (length : Nat) :
    length + 2 ≤ delimitedLength length := by
  have hlength := length_writeVarint_pos length
  rw [delimitedLength]
  omega

theorem delimitedLength_mono {m n : Nat} (h : m ≤ n) :
    delimitedLength m ≤ delimitedLength n := by
  have hlength := length_writeVarint_mono h
  rw [delimitedLength, delimitedLength]
  omega

/-- Two values under one length are no longer than under two. -/
theorem delimitedLength_add_le (m n : Nat) :
    delimitedLength (m + n) ≤ delimitedLength m + delimitedLength n := by
  have hlength := length_writeVarint_add_le m n
  rw [delimitedLength, delimitedLength, delimitedLength]
  omega

theorem delimitedLength_le_read {bytes value rest : Bytes}
    (h : readDelimited bytes = .ok (value, rest)) :
    delimitedLength value.length + rest.length ≤ bytes.length + 1 := by
  obtain ⟨tail, hread, htake⟩ := readDelimited_eq_ok_iff.mp h
  obtain ⟨-, rfl⟩ := takeBytes_eq_ok_iff.mp htake
  have hnumber := readNumber_length_le hread
  rw [List.length_append] at hnumber
  rw [delimitedLength]
  omega

/-- The bytes of an inner message, of which there are none if it is missing. -/
def optionalLength {N : Type} (weight : N → Nat) : Option N → Nat
  | none => 0
  | some n => delimitedLength (weight n)

/-- A message that is read on top of what there is, or of one without weight,
adds what it would take alone. -/
theorem delimitedLength_le_optionalLength {N : Type} {weight : N → Nat}
    {blank n : N} {old : Option N} {length : Nat} (hblank : weight blank = 0)
    (h : weight n ≤ weight (old.getD blank) + length) :
    delimitedLength (weight n) ≤
      optionalLength weight old + delimitedLength length := by
  have hmono := delimitedLength_mono h
  cases old with
  | none =>
      rw [Option.getD_none, hblank, Nat.zero_add] at hmono
      rw [optionalLength, Nat.zero_add]
      exact hmono
  | some m =>
      have hsum := delimitedLength_add_le (weight m) length
      exact Nat.le_trans hmono hsum

/-! What a field adds. -/

/-- The field adds at most the bytes that it uses up, one of them for its
key. -/
def Field.Weighs {M : Type} (weight : M → Nat) (field : Field M) : Prop :=
  ∀ {depth shape m m' bytes rest},
    field.merge depth shape m bytes = .ok (m', rest) →
      weight m' + rest.length ≤ weight m + bytes.length + 1

/-- All fields of the message add at most the bytes that they use up. -/
def Schema.Weighs {M : Type} (weight : M → Nat) (schema : Schema M) : Prop :=
  ∀ number field, (number, field) ∈ schema.fields → field.Weighs weight

namespace Schema.Weighs

variable {M : Type} {weight : M → Nat} {schema : Schema M} {depth limit : Nat}
  {m m' : M} {bytes rest : Bytes}

theorem mergeField (h : schema.Weighs weight)
    (hmerge : schema.mergeField depth m bytes = .ok (m', rest)) :
    weight m' + rest.length ≤ weight m + bytes.length := by
  obtain ⟨key, tail, hkey, ⟨field, hlookup, hfield⟩ | ⟨⟨-, rfl⟩, hskip⟩⟩ :=
    mergeField_eq_ok_iff.mp hmerge
  · have hread := readKey_length_lt hkey
    have hvalue := h key.number field (mem_fields_of_lookup hlookup) hfield
    omega
  · have hread := readKey_length_lt hkey
    have hvalue := skipField_length_le hskip
    omega

theorem mergeUntil (h : schema.Weighs weight)
    (hmerge : schema.mergeUntil depth limit m bytes = .ok (m', rest)) :
    weight m' + rest.length ≤ weight m + bytes.length := by
  fun_induction Schema.mergeUntil schema depth limit m bytes with
  | case1 => cases hmerge
  | case2 m bytes _ next tail hfield _ ih =>
      have hfirst := h.mergeField hfield
      have hlater := ih hmerge
      omega
  | case3 =>
      cases hmerge
      exact Nat.le_refl _
  | case4 => cases hmerge

/-- A message weighs no more than the bytes that it is read from. -/
theorem read (h : schema.Weighs weight) (hblank : weight m = 0)
    (hread : schema.read m bytes = .ok m') : weight m' ≤ bytes.length := by
  obtain ⟨⟨m', rest⟩, hmerge, rfl⟩ := map_eq_ok_iff.mp hread
  have hlength := h.mergeUntil hmerge
  simp only at hlength ⊢
  omega

end Schema.Weighs

namespace Field

variable {M N : Type} {weight : M → Nat} {name : String} {number : Nat}

/-- A number that is kept as it is, or the low bits of it. -/
theorem number_weighs (hnumber : number < 16) {put : Nat → M → M}
    (h : ∀ n m, ∃ kept ≤ n,
      weight (put n m) ≤ weight m + (writeNumber number kept).length) :
    (Field.number name put).Weighs weight := by
  intro depth shape m m' bytes rest hmerge
  obtain ⟨n, ⟨-, rfl⟩, hread⟩ := number_merge_iff.mp hmerge
  obtain ⟨kept, hkept, hadded⟩ := h n m
  have hwritten := length_writeNumber_le_writeVarint hnumber hkept
  have hlength := readNumber_length_le hread
  omega

theorem text_weighs (hnumber : number < 16) {put : String → M → M}
    (h : ∀ text m, weight (put text m) ≤
      weight m + (writeBytes number (Bytes.ofText text)).length) :
    (text name put).Weighs weight := by
  intro depth shape m m' bytes rest hmerge
  obtain ⟨text, ⟨-, rfl⟩, hread⟩ := text_merge_iff.mp hmerge
  have hadded := h text m
  have hwritten :=
    length_writeBytes_le_delimitedLength hnumber (Bytes.ofText text)
  have hlength := delimitedLength_le_read hread
  omega

theorem bytes_weighs (hnumber : number < 16) {put : Bytes → M → M}
    (h : ∀ value m, weight (put value m) ≤
      weight m + (writeBytes number value).length) :
    (Field.bytes name put).Weighs weight := by
  intro depth shape m m' bytes rest hmerge
  obtain ⟨value, ⟨-, rfl⟩, hread⟩ :=
    (scalar_merge_iff readDelimited_length_le).mp hmerge
  have hadded := h value m
  have hwritten := length_writeBytes_le_delimitedLength hnumber value
  have hlength := delimitedLength_le_read hread
  omega

/-- An inner message replaces the one that it is read on top of, and adds what
its own fields add. -/
theorem inner_weighs {inner : Schema N} {weightInner : N → Nat} {blank : N}
    {old : M → Option N} {put : N → M → M} (hlocal : inner.IsLocal)
    (hinner : inner.Weighs weightInner) (hblank : weightInner blank = 0)
    (h : ∀ n m, weight (put n m) + optionalLength weightInner (old m) ≤
      weight m + delimitedLength (weightInner n)) :
    (Field.inner name inner (fun m => (old m).getD blank) put).Weighs
      weight := by
  intro depth shape m m' bytes rest hmerge
  obtain ⟨n, value, ⟨-, -, rfl⟩, hread, hvalue⟩ :=
    (inner_merge_iff hlocal).mp hmerge
  have hgrowth := hinner.mergeUntil hvalue
  have hreplaced := delimitedLength_le_optionalLength hblank hgrowth
  have hadded := h n m
  have hlength := delimitedLength_le_read hread
  omega

end Field

end LanRelay.Wire
