/-
The grammar of packets: which datagrams are read, and as what.

A datagram is read as a packet exactly when it is the packet as it is written,
or that with the padding bit set and padding behind it. A datagram that is not
read is too short for one of its parts, or has the wrong version, or has
padding that is empty or reaches into the header.
-/
import LanRelay.Proofs.Rtp.Parts
import Mathlib.Data.List.GetD

namespace LanRelay.Rtp

/-- Between 1 and 255 bytes, the last of which says how many they are. -/
structure IsPadding (padding : Bytes) : Prop where
  nonempty : 1 ≤ padding.length
  fits : padding.length ≤ 255
  last : padding.getLast? = some (UInt8.ofNat padding.length)

/-- Set the bit of the first byte that says that there is padding. -/
def setPaddingBit : Bytes → Bytes
  | [] => []
  | b :: rest => (b ||| 0x20) :: rest

open Packet

theorem IsPadding.ne_nil {padding : Bytes} (h : IsPadding padding) :
    padding ≠ [] :=
  List.length_pos_iff.mp h.nonempty

theorem IsPadding.isEmpty {padding : Bytes} (h : IsPadding padding) :
    padding.isEmpty = false :=
  List.isEmpty_eq_false_iff.mpr h.ne_nil

theorem isPadding_iff {padding : Bytes} (hnonempty : padding ≠ [])
    (front : UInt8) :
    IsPadding padding ↔
      padding.length = (padding.getLastD front).toNat := by
  have hpositive := List.length_pos_iff.mpr hnonempty
  have hlast := List.getLast?_eq_some_getLast hnonempty
  rw [List.getLastD_eq_getLast?, hlast, Option.getD_some]
  constructor
  · rintro ⟨-, hfits, hcount⟩
    rw [hlast, Option.some.injEq] at hcount
    rw [hcount, UInt8.toNat_ofNat']
    omega
  · intro hlength
    have hbound := (padding.getLast hnonempty).toNat_lt
    refine ⟨hpositive, by omega, ?_⟩
    rw [hlast, hlength, UInt8.ofNat_toNat]

theorem getLastD_append_of_ne_nil {padding : Bytes} (h : padding ≠ [])
    (front : Bytes) (first : UInt8) :
    (front ++ padding).getLastD first = padding.getLastD first := by
  rw [List.getLastD_eq_getLast?, List.getLastD_eq_getLast?,
    List.getLast?_append_of_ne_nil front h]

/-- A canonical packet is read from its first byte, its fields, its body, and
padding that may be missing. -/
theorem read_of_canonical {packet : Packet} {padding : Bytes}
    (h : packet.Canonical) (hpadding : padding = [] ∨ IsPadding padding) :
    Packet.read (packet.firstByte (!padding.isEmpty) ::
      (packet.fields ++ packet.body ++ padding)) = .ok packet := by
  obtain ⟨b₁, s₁, s₀, t₃, t₂, t₁, t₀, i₃, i₂, i₁, i₀, hmarker, htype,
    hsequence, htimestamp, hssrc, hfields⟩ := exists_fields_eq h.payloadType
  obtain ⟨hversion, hpadded, hext, hcontributors⟩ :=
    firstByte_decode (!padding.isEmpty) h.contributors
  simp only [hfields, List.cons_append, List.nil_append, read_cons]
  rw [if_neg (by simpa using hversion), hpadded, ← hext, ← hcontributors,
    Packet.body, List.append_assoc, List.append_assoc, readWords_append]
  have hread : optionalExtension packet.ext.isSome
      ((packet.ext.map writeExtension).getD [] ++
        (packet.payload ++ padding)) =
        .ok (packet.ext, packet.payload ++ padding) :=
    optionalExtension_eq_ok_iff.mpr ⟨rfl, h.ext, rfl⟩
  have hpayload : optionalPadding (!padding.isEmpty)
      ((packet.contributors.flatMap bytes32 ++
        ((packet.ext.map writeExtension).getD [] ++
          (packet.payload ++ padding))).getLastD i₀)
      (packet.payload ++ padding) = .ok packet.payload := by
    refine optionalPadding_eq_ok_iff.mpr ⟨padding, rfl, by simp, ?_⟩
    intro hnonempty
    have hvalid := hpadding.resolve_left hnonempty
    rw [← List.append_assoc, ← List.append_assoc,
      getLastD_append_of_ne_nil hnonempty]
    exact (isPadding_iff hnonempty i₀).mp hvalid
  simp only [hread, hpayload, bind, Except.bind, pure, Except.pure,
    ← hmarker, ← htype, ← hsequence, ← htimestamp, ← hssrc]

/-- What is read as a packet begins with the first byte of the packet, and its
fields and its body follow, and then padding that may be missing. -/
theorem eq_of_read {bytes : Bytes} {packet : Packet}
    (h : Packet.read bytes = .ok packet) :
    packet.Canonical ∧ ∃ padding, (padding = [] ∨ IsPadding padding) ∧
      bytes = packet.firstByte (!padding.isEmpty) ::
        (packet.fields ++ packet.body ++ padding) := by
  have hlong : 12 ≤ bytes.length := by
    by_contra hshort
    rw [read_of_length_lt (by omega)] at h
    cases h
  obtain ⟨b₀, b₁, s₁, s₀, t₃, t₂, t₁, t₀, i₃, i₂, i₁, i₀, body, rfl⟩ :=
    exists_eq_cons_of_length hlong
  rw [read_cons] at h
  split at h
  · cases h
  · rename_i hversion
    split at h
    · cases h
    · rename_i contributors rest hwords
      obtain ⟨⟨ext, tail⟩, hext, hrest⟩ := bind_eq_ok_iff.mp h
      obtain ⟨payload, hpayload, hpacket⟩ := bind_eq_ok_iff.mp hrest
      obtain ⟨hcount, rfl⟩ := eq_append_of_readWords hwords
      obtain ⟨hpresent, hcanonical, rfl⟩ := optionalExtension_eq_ok_iff.mp hext
      obtain ⟨padding, rfl, hpadded, hlast⟩ :=
        optionalPadding_eq_ok_iff.mp hpayload
      obtain rfl := Except.ok.inj hpacket
      refine ⟨⟨?_, ?_, hcanonical⟩, padding, ?_, ?_⟩
      · simp only [hcount]
        omega
      · simp only [UInt8.toNat_ofNat']
        omega
      · by_cases hnil : padding = []
        · exact Or.inl hnil
        · right
          rw [isPadding_iff hnil i₀, hlast hnil, ← List.append_assoc,
            ← List.append_assoc, getLastD_append_of_ne_nil hnil]
      · have hfirst := eq_firstByte
          { marker := decide (b₁.toNat / 128 = 1)
            payloadType := UInt8.ofNat (b₁.toNat % 128)
            sequence := word16 s₁ s₀, timestamp := word32 t₃ t₂ t₁ t₀
            ssrc := word32 i₃ i₂ i₁ i₀, contributors, ext, payload }
          (!padding.isEmpty) (by omega) ?_ hpresent hcount
        · rw [← hfirst, fields_eq rfl rfl rfl rfl rfl]
          simp [Packet.body]
        · rw [Bool.eq_iff_iff, hpadded]
          simp

theorem marshal_eq_cons {packet : Packet}
    (h : packet.contributors.length ≤ 15) :
    packet.marshal =
      packet.firstByte false :: (packet.fields ++ packet.body) := by
  have htake : packet.contributors.take maxContributors =
      packet.contributors := List.take_of_length_le h
  simp [marshal, htake, firstByte, fields, body]

theorem or_paddingBit {b : UInt8} (h : b.toNat / 32 % 2 = 0) :
    (b ||| 0x20).toNat = b.toNat + 32 := by
  have hbits : ∀ n < 256, n / 32 % 2 = 0 → n ||| 32 = n + 32 := by
    decide +kernel
  rw [UInt8.toNat_or]
  exact hbits b.toNat b.toNat_lt h

theorem setPaddingBit_marshal {packet : Packet}
    (h : packet.contributors.length ≤ 15) :
    setPaddingBit packet.marshal =
      packet.firstByte true :: (packet.fields ++ packet.body) := by
  obtain ⟨-, hclear, -, -⟩ := firstByte_decode false h
  have hfirst : packet.firstByte false ||| 0x20 = packet.firstByte true := by
    apply UInt8.toNat_inj.mp
    rw [or_paddingBit (by simpa using hclear), firstByte_toNat true h,
      firstByte_toNat false h]
    simp only [if_true, Bool.false_eq_true, if_false]
    omega
  rw [marshal_eq_cons h, setPaddingBit, hfirst]

/-- The datagrams that are read as a packet. -/
theorem read_eq_ok_iff {bytes : Bytes} {packet : Packet} :
    Packet.read bytes = .ok packet ↔
      packet.Canonical ∧ (bytes = packet.marshal ∨
        ∃ padding, IsPadding padding ∧
          bytes = setPaddingBit packet.marshal ++ padding) := by
  constructor
  · intro h
    obtain ⟨hcanonical, padding, hnil | hpadding, rfl⟩ := eq_of_read h
    · subst hnil
      refine ⟨hcanonical, Or.inl ?_⟩
      simp [marshal_eq_cons hcanonical.contributors]
    · refine ⟨hcanonical, Or.inr ⟨padding, hpadding, ?_⟩⟩
      simp [setPaddingBit_marshal hcanonical.contributors, hpadding.isEmpty]
  · rintro ⟨hcanonical, rfl | ⟨padding, hpadding, rfl⟩⟩
    · have hread := read_of_canonical hcanonical (Or.inl rfl)
      simpa [marshal_eq_cons hcanonical.contributors] using hread
    · have hread := read_of_canonical hcanonical (Or.inr hpadding)
      simpa [setPaddingBit_marshal hcanonical.contributors,
        hpadding.isEmpty] using hread

/-! The datagrams that are not read. -/

/-- How many contributing sources a datagram says that it has. -/
def contributorCount (bytes : Bytes) : Nat := (bytes.headD 0).toNat % 16

/-- Where a datagram says that its payload begins. Bytes that it does not have
count as zero. -/
def payloadStart (bytes : Bytes) : Nat :=
  let start := 12 + 4 * contributorCount bytes
  if (bytes.headD 0).toNat / 16 % 2 = 1 then
    start + 4 + 4 * (word16 (bytes.getD (start + 2) 0)
      (bytes.getD (start + 3) 0)).toNat
  else start

/-- What can be wrong with a datagram. -/
inductive Malformed (bytes : Bytes) : Prop where
  | short (h : bytes.length < 12)
  | version (h : (bytes.headD 0).toNat / 64 ≠ 2)
  | contributors (h : bytes.length < 12 + 4 * contributorCount bytes)
  | ext (h : bytes.length < payloadStart bytes)
  | emptyPadding (hpadded : (bytes.headD 0).toNat / 32 % 2 = 1)
      (h : bytes.getLastD 0 = 0)
  | padding (hpadded : (bytes.headD 0).toNat / 32 % 2 = 1)
      (h : bytes.length < payloadStart bytes + (bytes.getLastD 0).toNat)

theorem length_flatMap_bytes32 (words : List UInt32) :
    (words.flatMap bytes32).length = 4 * words.length := by
  induction words with
  | nil => rfl
  | cons word words ih =>
      simp only [List.flatMap_cons, List.length_append, ih, bytes32,
        List.length_cons, List.length_nil]
      omega

/-- The count of words of an extension stands behind the contributing
sources. -/
theorem payloadStart_eq (b₀ : UInt8) {fields : Bytes} (rest : Bytes)
    {words : List UInt32} (hfields : fields.length = 11)
    (hwords : words.length = b₀.toNat % 16) :
    payloadStart (b₀ :: (fields ++ (words.flatMap bytes32 ++ rest))) =
      12 + 4 * words.length +
        if b₀.toNat / 16 % 2 = 1 then
          4 + 4 * (word16 (rest.getD 2 0) (rest.getD 3 0)).toNat
        else 0 := by
  have hsize := length_flatMap_bytes32 words
  have hat (i : Nat) : (b₀ :: (fields ++ (words.flatMap bytes32 ++ rest))).getD
      (12 + 4 * words.length + i) 0 = rest.getD i 0 := by
    rw [← List.append_assoc, ← List.cons_append,
      List.getD_append_right _ _ _ _ (by simp [hfields, hsize]; omega)]
    congr 1
    simp [hfields, hsize]
    omega
  simp only [payloadStart, contributorCount, List.headD_cons, ← hwords, hat]
  split <;> omega

theorem payloadStart_of_canonical {packet : Packet} (h : packet.Canonical)
    (padded : Bool) (padding : Bytes) :
    payloadStart (packet.firstByte padded ::
        (packet.fields ++ packet.body ++ padding)) + packet.payload.length =
      12 + packet.body.length := by
  obtain ⟨-, -, hext, hcontributors⟩ := firstByte_decode padded h.contributors
  have hfields : packet.fields.length = 11 := rfl
  simp only [Packet.body, List.append_assoc]
  rw [payloadStart_eq _ _ hfields hcontributors]
  simp only [List.length_append, length_flatMap_bytes32]
  cases hpresent : packet.ext with
  | none =>
      rw [hpresent] at hext
      rw [if_neg (by simpa using hext)]
      simp
      omega
  | some ext =>
      rw [hpresent] at hext
      obtain ⟨p₁, p₀, n₁, n₀, -, hsize, hwrite⟩ :=
        writeExtension_eq_cons (h.ext ext hpresent)
      rw [if_pos (by simpa using hext)]
      simp [hwrite, hsize]
      omega

/-- A datagram that is read has nothing wrong with it. -/
theorem not_malformed_of_read {bytes : Bytes} {packet : Packet}
    (h : Packet.read bytes = .ok packet) : ¬Malformed bytes := by
  obtain ⟨hcanonical, padding, hpadding, rfl⟩ := eq_of_read h
  obtain ⟨hversion, hpadded, -, hcontributors⟩ :=
    firstByte_decode (!padding.isEmpty) hcanonical.contributors
  have hstart := payloadStart_of_canonical hcanonical (!padding.isEmpty) padding
  have hfields : packet.fields.length = 11 := rfl
  have hbody : 4 * packet.contributors.length + packet.payload.length ≤
      packet.body.length := by
    simp only [Packet.body, List.length_append, length_flatMap_bytes32]
    omega
  have hlast : padding ≠ [] →
      ((packet.firstByte (!padding.isEmpty) ::
        (packet.fields ++ packet.body ++ padding)).getLastD 0).toNat =
        padding.length := by
    intro hnonempty
    rw [← List.cons_append, getLastD_append_of_ne_nil hnonempty]
    exact ((isPadding_iff hnonempty 0).mp
      (hpadding.resolve_left hnonempty)).symm
  intro hmalformed
  cases hmalformed with
  | short hshort =>
      simp [hfields] at hshort
      omega
  | version hwrong => exact hwrong hversion
  | contributors hshort =>
      simp [hfields, contributorCount, ← hcontributors] at hshort
      omega
  | ext hshort =>
      simp [hfields] at hshort hstart
      omega
  | emptyPadding hbit hzero =>
      have hnonempty : padding ≠ [] := by
        simpa using hpadded.symm.trans (decide_eq_true hbit)
      have hcount := hlast hnonempty
      rw [hzero] at hcount
      exact hnonempty (List.length_eq_zero_iff.mp hcount.symm)
  | padding hbit hshort =>
      have hnonempty : padding ≠ [] := by
        simpa using hpadded.symm.trans (decide_eq_true hbit)
      have hcount := hlast hnonempty
      simp [hfields] at hshort hstart hcount
      omega

/-- A datagram with nothing wrong with it is read. -/
theorem exists_read_of_not_malformed {bytes : Bytes}
    (h : ¬Malformed bytes) : ∃ packet, Packet.read bytes = .ok packet := by
  have hlong : 12 ≤ bytes.length := by
    by_contra hshort
    exact h (.short (by omega))
  obtain ⟨b₀, b₁, s₁, s₀, t₃, t₂, t₁, t₀, i₃, i₂, i₁, i₀, body, rfl⟩ :=
    exists_eq_cons_of_length hlong
  have hversion : ¬b₀.toNat / 64 ≠ 2 := fun hwrong => h (.version hwrong)
  cases hwords : readWords (b₀.toNat % 16) body with
  | none =>
      have hshort := readWords_eq_none_iff.mp hwords
      refine absurd (.contributors ?_) h
      simp only [contributorCount, List.headD_cons, List.length_cons]
      omega
  | some read =>
      obtain ⟨words, rest⟩ := read
      obtain ⟨hcount, rfl⟩ := eq_append_of_readWords hwords
      have hfields :
          [b₁, s₁, s₀, t₃, t₂, t₁, t₀, i₃, i₂, i₁, i₀].length = 11 := rfl
      have hstart := payloadStart_eq b₀ rest hfields hcount
      have hsize := length_flatMap_bytes32 words
      simp only [List.cons_append, List.nil_append] at hstart
      obtain ⟨ext, tail, hext, hrest⟩ : ∃ ext tail,
          optionalExtension (b₀.toNat / 16 % 2 = 1) rest = .ok (ext, tail) ∧
            _ := by
        refine exists_optionalExtension fun hpresent => ?_
        rw [decide_eq_true_iff] at hpresent
        by_contra hshort
        refine h (.ext ?_)
        rw [hstart, if_pos hpresent]
        simp only [List.length_cons, List.length_append, hsize]
        omega
      obtain ⟨payload, hpayload⟩ : ∃ payload,
          optionalPadding (b₀.toNat / 32 % 2 = 1)
            ((words.flatMap bytes32 ++ rest).getLastD i₀) tail =
              .ok payload := by
        refine exists_optionalPadding fun hpadded => ?_
        rw [decide_eq_true_iff] at hpadded
        have hlast : (words.flatMap bytes32 ++ rest).getLastD i₀ =
            (b₀ :: b₁ :: s₁ :: s₀ :: t₃ :: t₂ :: t₁ :: t₀ :: i₃ :: i₂ :: i₁ ::
              i₀ :: (words.flatMap bytes32 ++ rest)).getLastD 0 := by
          simp only [List.getLastD_cons]
        rw [hlast]
        refine ⟨fun hzero => h (.emptyPadding hpadded hzero), ?_⟩
        by_contra hshort
        refine h (.padding hpadded ?_)
        rw [hstart]
        simp only [List.length_cons, List.length_append, hsize, hrest,
          decide_eq_true_eq]
        omega
      simp only [read_cons, if_neg hversion, hwords, hext, hpayload, bind,
        Except.bind, pure, Except.pure]
      exact ⟨_, rfl⟩

theorem parse_eq_ok_iff {bytes : Bytes} {packet : Packet} :
    Packet.parse bytes = .ok packet ↔ Packet.read bytes = .ok packet :=
  mapError_eq_ok_iff

theorem exists_parse_eq_error_iff {bytes : Bytes} :
    (∃ detail, Packet.parse bytes = .error (.rtp detail)) ↔
      Malformed bytes := by
  constructor
  · rintro ⟨detail, hparse⟩
    by_contra hwell
    obtain ⟨packet, hread⟩ := exists_read_of_not_malformed hwell
    rw [parse_eq_ok_iff.mpr hread] at hparse
    cases hparse
  · intro hmalformed
    cases hread : Packet.read bytes with
    | error defect => exact ⟨defect.message, by rw [Packet.parse, hread]; rfl⟩
    | ok packet => exact absurd hmalformed (not_malformed_of_read hread)

/-- An unpadded datagram is read as the packet that is written as it. -/
theorem read_unpadded_iff {bytes : Bytes} {packet : Packet} :
    Packet.read bytes = .ok packet ∧ (bytes.headD 0).toNat / 32 % 2 = 0 ↔
      packet.Canonical ∧ bytes = packet.marshal := by
  constructor
  · rintro ⟨hread, hclear⟩
    obtain ⟨hcanonical, hplain | ⟨padding, -, rfl⟩⟩ := read_eq_ok_iff.mp hread
    · exact ⟨hcanonical, hplain⟩
    · obtain ⟨-, hset, -, -⟩ := firstByte_decode true hcanonical.contributors
      rw [setPaddingBit_marshal hcanonical.contributors, List.cons_append,
        List.headD_cons] at hclear
      simp [hclear] at hset
  · rintro ⟨hcanonical, rfl⟩
    refine ⟨read_eq_ok_iff.mpr ⟨hcanonical, Or.inl rfl⟩, ?_⟩
    obtain ⟨-, hclear, -, -⟩ := firstByte_decode false hcanonical.contributors
    rw [marshal_eq_cons hcanonical.contributors, List.headD_cons]
    simpa using hclear

/-- Reading accepts exactly the packets as they are written and the same with
padding, and loses nothing but the padding; all else has something wrong with
it and is refused. -/
theorem parse_accepts_exactly (bytes : Bytes) (packet : Packet) :
    (Packet.parse bytes = .ok packet ↔
      packet.Canonical ∧ (bytes = packet.marshal ∨
        ∃ padding, IsPadding padding ∧
          bytes = setPaddingBit packet.marshal ++ padding)) ∧
    (Packet.parse bytes = .ok packet ∧ (bytes.headD 0).toNat / 32 % 2 = 0 ↔
      packet.Canonical ∧ bytes = packet.marshal) ∧
    ((∃ detail, Packet.parse bytes = .error (.rtp detail)) ↔
      Malformed bytes) := by
  rw [parse_eq_ok_iff]
  exact ⟨read_eq_ok_iff, read_unpadded_iff, exists_parse_eq_error_iff⟩

/-- Without a payload the count of padding is the last byte of the header. -/
example : Packet.parse [0xa0, 0x60, 0, 1, 0, 0, 0, 2, 0, 0, 0, 3] =
    .error (.rtp "invalid padding 3") := by rfl

end LanRelay.Rtp
