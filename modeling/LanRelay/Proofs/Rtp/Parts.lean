/-
The parts of a packet: the first byte, the fixed fields, the contributing
sources, the extension and the padding.

Each part is read back as it was written, and what a part is read from is how
it is written.
-/
import LanRelay.Proofs.Outcome
import LanRelay.Rtp.Packet
import Mathlib.Data.List.Basic

namespace LanRelay.Rtp

/-- Writing and reading leave the extension as it is: its body is made of
whole words, as many as their count has room for. -/
structure Extension.Canonical (ext : Extension) : Prop where
  whole : ext.body.length % 4 = 0
  fits : ext.body.length ≤ 262140

/-- Writing keeps every field of the packet. -/
structure Packet.Canonical (packet : Packet) : Prop where
  contributors : packet.contributors.length ≤ 15
  payloadType : packet.payloadType.toNat < 128
  ext : ∀ ext ∈ packet.ext, ext.Canonical

open Packet

/-! Reading the parts of a packet undoes writing them. -/

theorem readWords_append (words : List UInt32) (rest : Bytes) :
    readWords words.length (words.flatMap bytes32 ++ rest) =
      some (words, rest) := by
  induction words with
  | nil => rfl
  | cons word words ih =>
      obtain ⟨b₃, b₂, b₁, b₀, hbytes, hword⟩ := word32_bytes32 word
      simp only [List.length_cons, List.flatMap_cons, hbytes,
        List.cons_append, List.nil_append, readWords, ih, Option.map_some,
        hword]

theorem eq_append_of_readWords {n : Nat} {bytes rest : Bytes}
    {words : List UInt32} (h : readWords n bytes = some (words, rest)) :
    words.length = n ∧ bytes = words.flatMap bytes32 ++ rest := by
  fun_induction readWords n bytes generalizing words with
  | case1 => simp_all
  | case2 n b₃ b₂ b₁ b₀ tail ih =>
      obtain ⟨⟨words', rest'⟩, hread, heq⟩ := Option.map_eq_some_iff.mp h
      cases heq
      obtain ⟨hlength, htail⟩ := ih hread
      simp [bytes32_word32, hlength, htail]
  | case3 => cases h

theorem readWords_eq_none_iff {n : Nat} {bytes : Bytes} :
    readWords n bytes = none ↔ bytes.length < 4 * n := by
  fun_induction readWords n bytes with
  | case1 => simp
  | case2 n b₃ b₂ b₁ b₀ tail ih =>
      simp only [Option.map_eq_none_iff, ih, List.length_cons]
      omega
  | case3 n bytes hshort =>
      have hlength : bytes.length < 4 := by
        match bytes, hshort with
        | [], _ | [_], _ | [_, _], _ | [_, _, _], _ => simp
        | b₃ :: b₂ :: b₁ :: b₀ :: tail, hshort =>
            exact absurd rfl (hshort b₃ b₂ b₁ b₀ tail)
      simp only [true_iff]
      omega

theorem writeExtension_eq_cons {ext : Extension} (h : ext.Canonical) :
    ∃ p₁ p₀ n₁ n₀, word16 p₁ p₀ = ext.profile ∧
      4 * (word16 n₁ n₀).toNat = ext.body.length ∧
      writeExtension ext = p₁ :: p₀ :: n₁ :: n₀ :: ext.body := by
  obtain ⟨p₁, p₀, hprofile, hword⟩ := word16_bytes16 ext.profile
  obtain ⟨n₁, n₀, hcount, hwords⟩ :=
    word16_bytes16 (UInt16.ofNat (extensionWords ext))
  have hsize : 4 * extensionWords ext = ext.body.length := by
    have hwhole := h.whole
    simp only [extensionWords]
    omega
  refine ⟨p₁, p₀, n₁, n₀, hword, ?_, ?_⟩
  · have hfits := h.fits
    rw [hwords, UInt16.toNat_ofNat', Nat.mod_eq_of_lt (by omega)]
    exact hsize
  · simp [writeExtension, hprofile, hcount, hsize]

theorem readExtension_append {ext : Extension} (h : ext.Canonical)
    (rest : Bytes) :
    readExtension (writeExtension ext ++ rest) = .ok (ext, rest) := by
  obtain ⟨p₁, p₀, n₁, n₀, hprofile, hsize, hwrite⟩ := writeExtension_eq_cons h
  simp [hwrite, readExtension, hprofile, hsize]

theorem eq_append_of_readExtension {bytes rest : Bytes} {ext : Extension}
    (h : readExtension bytes = .ok (ext, rest)) :
    ext.Canonical ∧ bytes = writeExtension ext ++ rest := by
  unfold readExtension at h
  dsimp only at h
  split at h
  · rename_i p₁ p₀ n₁ n₀ tail
    have hcount := (word16 n₁ n₀).toNat_lt
    split at h
    · cases h
    · rename_i hroom
      cases h
      have hlength : (tail.take (4 * (word16 n₁ n₀).toNat)).length =
          4 * (word16 n₁ n₀).toNat := by
        rw [List.length_take]
        omega
      refine ⟨⟨?_, ?_⟩, ?_⟩
      · simp only [hlength]
        omega
      · simp only [hlength]
        omega
      · have hwords : (4 * (word16 n₁ n₀).toNat + 3) / 4 =
            (word16 n₁ n₀).toNat := by
          omega
        simp [writeExtension, extensionWords, hlength, hwords,
          bytes16_word16]
  · cases h

theorem dropPadding_append {payload padding : Bytes} {last : UInt8}
    (hnonempty : padding ≠ []) (hlast : last.toNat = padding.length) :
    dropPadding last (payload ++ padding) = .ok payload := by
  have hpositive := List.length_pos_iff.mpr hnonempty
  have hroom : ¬(last.toNat = 0 ∨
      (payload ++ padding).length < last.toNat) := by
    rw [hlast, List.length_append]
    omega
  simp only [dropPadding, if_neg hroom]
  simp [hlast]

theorem eq_append_of_dropPadding {bytes payload : Bytes} {last : UInt8}
    (h : dropPadding last bytes = .ok payload) :
    ∃ padding, padding ≠ [] ∧ padding.length = last.toNat ∧
      bytes = payload ++ padding := by
  simp only [dropPadding] at h
  split at h
  · cases h
  · rename_i hroom
    cases h
    refine ⟨bytes.drop (bytes.length - last.toNat), ?_, ?_, ?_⟩
    · rw [← List.length_pos_iff, List.length_drop]
      omega
    · rw [List.length_drop]
      omega
    · rw [List.take_append_drop]

/-! A packet is read part by part. -/

/-- The extension, if the first byte says that there is one. -/
def optionalExtension (present : Bool) (bytes : Bytes) :
    Except Defect (Option Extension × Bytes) :=
  if present then
    (readExtension bytes).map fun (ext, rest) => (some ext, rest)
  else .ok (none, bytes)

/-- The payload, without the padding if the first byte says that there is
some. -/
def optionalPadding (present : Bool) (last : UInt8) (bytes : Bytes) :
    Except Defect Bytes :=
  if present then dropPadding last bytes else .ok bytes

/-- The eleven bytes of the fixed header that follow the first one. -/
def Packet.fields (packet : Packet) : Bytes :=
  UInt8.ofNat ((if packet.marker then 128 else 0) +
      packet.payloadType.toNat % 128) ::
    (bytes16 packet.sequence ++ bytes32 packet.timestamp ++
      bytes32 packet.ssrc)

/-- What follows the fixed header. -/
def Packet.body (packet : Packet) : Bytes :=
  packet.contributors.flatMap bytes32 ++
    (packet.ext.map writeExtension).getD [] ++ packet.payload

theorem optionalExtension_eq_ok_iff {present : Bool} {bytes rest : Bytes}
    {ext : Option Extension} :
    optionalExtension present bytes = .ok (ext, rest) ↔
      ext.isSome = present ∧ (∀ e ∈ ext, e.Canonical) ∧
        bytes = (ext.map writeExtension).getD [] ++ rest := by
  cases present with
  | false => cases ext <;> simp [optionalExtension, eq_comm]
  | true =>
      cases ext with
      | none =>
          cases h : readExtension bytes <;>
            simp [optionalExtension, h, Except.map]
      | some ext =>
          constructor
          · intro h
            cases hread : readExtension bytes with
            | error defect => simp [optionalExtension, hread, Except.map] at h
            | ok read =>
                simp only [optionalExtension, hread, Except.map, if_true,
                  Except.ok.injEq, Prod.mk.injEq, Option.some.injEq] at h
                obtain ⟨rfl, rfl⟩ := h
                have hread := eq_append_of_readExtension hread
                simpa using hread
          · rintro ⟨-, hcanonical, rfl⟩
            simp [optionalExtension, Except.map,
              readExtension_append (hcanonical ext rfl)]

theorem optionalPadding_eq_ok_iff {present : Bool} {last : UInt8}
    {bytes payload : Bytes} :
    optionalPadding present last bytes = .ok payload ↔
      ∃ padding, bytes = payload ++ padding ∧
        (present = true ↔ padding ≠ []) ∧
        (padding ≠ [] → padding.length = last.toNat) := by
  cases present with
  | false => simp [optionalPadding]
  | true =>
      constructor
      · intro h
        obtain ⟨padding, hnonempty, hlength, hbytes⟩ :=
          eq_append_of_dropPadding h
        exact ⟨padding, hbytes, by simp [hnonempty], fun _ => hlength⟩
      · rintro ⟨padding, rfl, hpresent, hlength⟩
        have hnonempty := hpresent.mp rfl
        exact dropPadding_append hnonempty (hlength hnonempty).symm

/-- An extension is read where there is room for as many words as it says. -/
theorem exists_optionalExtension {present : Bool} {bytes : Bytes}
    (h : present = true →
      4 + 4 * (word16 (bytes.getD 2 0) (bytes.getD 3 0)).toNat ≤
        bytes.length) :
    ∃ ext rest, optionalExtension present bytes = .ok (ext, rest) ∧
      bytes.length = rest.length +
        if present then
          4 + 4 * (word16 (bytes.getD 2 0) (bytes.getD 3 0)).toNat
        else 0 := by
  cases present with
  | false => exact ⟨none, bytes, rfl, rfl⟩
  | true =>
      have hroom := h rfl
      obtain ⟨p₁, p₀, n₁, n₀, tail, rfl⟩ :
          ∃ p₁ p₀ n₁ n₀ tail, bytes = p₁ :: p₀ :: n₁ :: n₀ :: tail := by
        have hlength : 4 ≤ bytes.length := by omega
        match bytes, hlength with
        | p₁ :: p₀ :: n₁ :: n₀ :: tail, _ =>
            exact ⟨p₁, p₀, n₁, n₀, tail, rfl⟩
      simp only [List.length_cons, List.getD_cons_succ,
        List.getD_cons_zero] at hroom
      have hfits : ¬tail.length < 4 * (word16 n₁ n₀).toNat := by omega
      refine ⟨some ⟨word16 p₁ p₀, tail.take (4 * (word16 n₁ n₀).toNat)⟩,
        tail.drop (4 * (word16 n₁ n₀).toNat), ?_, ?_⟩
      · simp only [optionalExtension, readExtension, hfits, if_true, if_false,
          Except.map]
      · simp only [List.length_cons, List.length_drop, List.getD_cons_succ,
          List.getD_cons_zero, if_true]
        omega

theorem exists_optionalPadding {present : Bool} {last : UInt8} {bytes : Bytes}
    (h : present = true → last ≠ 0 ∧ last.toNat ≤ bytes.length) :
    ∃ payload, optionalPadding present last bytes = .ok payload := by
  cases present with
  | false => exact ⟨bytes, rfl⟩
  | true =>
      obtain ⟨hpositive, hroom⟩ := h rfl
      have hlast : ¬(last.toNat = 0 ∨ bytes.length < last.toNat) := by
        rw [not_or]
        refine ⟨fun hzero => hpositive (UInt8.toNat_inj.mp hzero), ?_⟩
        omega
      exact ⟨_, by simp only [optionalPadding, dropPadding, hlast, if_true,
        if_false]; rfl⟩

theorem read_cons (b₀ b₁ s₁ s₀ t₃ t₂ t₁ t₀ i₃ i₂ i₁ i₀ : UInt8)
    (body : Bytes) :
    Packet.read (b₀ :: b₁ :: s₁ :: s₀ :: t₃ :: t₂ :: t₁ :: t₀ :: i₃ :: i₂ ::
        i₁ :: i₀ :: body) =
      if b₀.toNat / 64 ≠ 2 then
        .error (.unsupportedVersion (b₀.toNat / 64))
      else
        match readWords (b₀.toNat % 16) body with
        | none => .error .truncatedContributors
        | some (contributors, rest) => do
            let (ext, rest) ← optionalExtension (b₀.toNat / 16 % 2 = 1) rest
            let payload ← optionalPadding (b₀.toNat / 32 % 2 = 1)
              (body.getLastD i₀) rest
            return {
              marker := b₁.toNat / 128 = 1
              payloadType := UInt8.ofNat (b₁.toNat % 128)
              sequence := word16 s₁ s₀
              timestamp := word32 t₃ t₂ t₁ t₀
              ssrc := word32 i₃ i₂ i₁ i₀
              contributors, ext, payload } := by
  rw [Packet.read]
  split
  · rfl
  · simp only [optionalExtension, optionalPadding, decide_eq_true_eq]
    cases readWords (b₀.toNat % 16) body with
    | none => rfl
    | some read =>
        by_cases hext : b₀.toNat / 16 % 2 = 1 <;>
          by_cases hpadding : b₀.toNat / 32 % 2 = 1 <;>
            simp only [hext, hpadding, if_true, if_false] <;> rfl

theorem read_of_length_lt {bytes : Bytes} (h : bytes.length < 12) :
    Packet.read bytes = .error (.tooShort bytes.length) := by
  unfold Packet.read
  split
  · simp only [List.length_cons] at h
    omega
  · rfl

/-- A datagram that is long enough begins with a fixed header. -/
theorem exists_eq_cons_of_length {bytes : Bytes} (h : 12 ≤ bytes.length) :
    ∃ b₀ b₁ s₁ s₀ t₃ t₂ t₁ t₀ i₃ i₂ i₁ i₀ body,
      bytes = b₀ :: b₁ :: s₁ :: s₀ :: t₃ :: t₂ :: t₁ :: t₀ :: i₃ :: i₂ ::
        i₁ :: i₀ :: body := by
  match bytes, h with
  | b₀ :: b₁ :: s₁ :: s₀ :: t₃ :: t₂ :: t₁ :: t₀ :: i₃ :: i₂ :: i₁ :: i₀ ::
      body, _ =>
      exact ⟨b₀, b₁, s₁, s₀, t₃, t₂, t₁, t₀, i₃, i₂, i₁, i₀, body, rfl⟩

/-- The fixed header says what its fields are. -/
theorem fields_eq {packet : Packet} {b₁ s₁ s₀ t₃ t₂ t₁ t₀ i₃ i₂ i₁ i₀ : UInt8}
    (hmarker : packet.marker = decide (b₁.toNat / 128 = 1))
    (htype : packet.payloadType = UInt8.ofNat (b₁.toNat % 128))
    (hsequence : packet.sequence = word16 s₁ s₀)
    (htimestamp : packet.timestamp = word32 t₃ t₂ t₁ t₀)
    (hssrc : packet.ssrc = word32 i₃ i₂ i₁ i₀) :
    packet.fields = [b₁, s₁, s₀, t₃, t₂, t₁, t₀, i₃, i₂, i₁, i₀] := by
  have hb₁ := b₁.toNat_lt
  have hsecond : UInt8.ofNat ((if packet.marker then 128 else 0) +
      packet.payloadType.toNat % 128) = b₁ := by
    apply UInt8.toNat_inj.mp
    simp only [hmarker, htype, decide_eq_true_eq, UInt8.toNat_ofNat']
    split <;> omega
  rw [Packet.fields, hsecond, hsequence, htimestamp, hssrc, bytes16_word16,
    bytes32_word32, bytes32_word32]
  rfl

theorem exists_fields_eq {packet : Packet}
    (htype : packet.payloadType.toNat < 128) :
    ∃ b₁ s₁ s₀ t₃ t₂ t₁ t₀ i₃ i₂ i₁ i₀ : UInt8,
      packet.marker = decide (b₁.toNat / 128 = 1) ∧
      packet.payloadType = UInt8.ofNat (b₁.toNat % 128) ∧
      packet.sequence = word16 s₁ s₀ ∧
      packet.timestamp = word32 t₃ t₂ t₁ t₀ ∧
      packet.ssrc = word32 i₃ i₂ i₁ i₀ ∧
      packet.fields = [b₁, s₁, s₀, t₃, t₂, t₁, t₀, i₃, i₂, i₁, i₀] := by
  obtain ⟨s₁, s₀, -, hsequence⟩ := word16_bytes16 packet.sequence
  obtain ⟨t₃, t₂, t₁, t₀, -, htimestamp⟩ := word32_bytes32 packet.timestamp
  obtain ⟨i₃, i₂, i₁, i₀, -, hssrc⟩ := word32_bytes32 packet.ssrc
  let b₁ := UInt8.ofNat ((if packet.marker then 128 else 0) +
    packet.payloadType.toNat % 128)
  have hb₁ : b₁.toNat =
      (if packet.marker then 128 else 0) + packet.payloadType.toNat := by
    simp only [b₁, UInt8.toNat_ofNat']
    split <;> omega
  have hmarker : packet.marker = decide (b₁.toNat / 128 = 1) := by
    rw [hb₁]
    cases packet.marker
    · simp only [Bool.false_eq_true, if_false]
      rw [eq_comm, decide_eq_false_iff_not]
      omega
    · simp only [if_true]
      rw [eq_comm, decide_eq_true_iff]
      omega
  have htype : packet.payloadType = UInt8.ofNat (b₁.toNat % 128) := by
    apply UInt8.toNat_inj.mp
    rw [hb₁, UInt8.toNat_ofNat']
    split <;> omega
  exact ⟨b₁, s₁, s₀, t₃, t₂, t₁, t₀, i₃, i₂, i₁, i₀, hmarker, htype,
    hsequence.symm, htimestamp.symm, hssrc.symm,
    fields_eq hmarker htype hsequence.symm htimestamp.symm hssrc.symm⟩

/-- The first byte of a packet: the version, whether there is padding, whether
there is an extension, and how many contributing sources there are. -/
def Packet.firstByte (packet : Packet) (padded : Bool) : UInt8 :=
  UInt8.ofNat (128 + (if padded then 32 else 0) +
    (if packet.ext.isSome then 16 else 0) + packet.contributors.length)

theorem firstByte_toNat {packet : Packet} (padded : Bool)
    (h : packet.contributors.length ≤ 15) :
    (packet.firstByte padded).toNat =
      128 + (if padded then 32 else 0) +
        (if packet.ext.isSome then 16 else 0) + packet.contributors.length := by
  simp only [firstByte, UInt8.toNat_ofNat']
  split <;> split <;> omega

theorem eq_firstByte (packet : Packet) (padded : Bool) {b : UInt8}
    (hversion : b.toNat / 64 = 2)
    (hpadded : decide (b.toNat / 32 % 2 = 1) = padded)
    (hext : packet.ext.isSome = decide (b.toNat / 16 % 2 = 1))
    (hcontributors : packet.contributors.length = b.toNat % 16) :
    b = packet.firstByte padded := by
  have hb := b.toNat_lt
  apply UInt8.toNat_inj.mp
  rw [firstByte_toNat padded (by omega), hext, hcontributors, ← hpadded]
  simp only [decide_eq_true_eq]
  split <;> split <;> omega

theorem firstByte_decode {packet : Packet} (padded : Bool)
    (h : packet.contributors.length ≤ 15) :
    (packet.firstByte padded).toNat / 64 = 2 ∧
      decide ((packet.firstByte padded).toNat / 32 % 2 = 1) = padded ∧
      packet.ext.isSome =
        decide ((packet.firstByte padded).toNat / 16 % 2 = 1) ∧
      packet.contributors.length = (packet.firstByte padded).toNat % 16 := by
  rw [firstByte_toNat padded h]
  refine ⟨?_, ?_, ?_, ?_⟩
  · split <;> split <;> omega
  · cases padded <;> cases packet.ext.isSome <;> simp <;> omega
  · cases padded <;> cases packet.ext.isSome <;> simp <;> omega
  · split <;> split <;> omega

end LanRelay.Rtp
