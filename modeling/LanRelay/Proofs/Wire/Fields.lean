/-
Fields are read back as they were written, and what is left after a field is
the end of what there was.

`Schema.Carries` says that some bytes take one message to another, whatever
comes after them. A message is written as a sequence of such bytes.
-/
import LanRelay.Proofs.Outcome
import LanRelay.Proofs.Wire.Varint
import LanRelay.Wire.Schema

namespace LanRelay.Wire

/-! Keys and lengths. -/

theorem readNumber_append {n : Nat} (h : n < 18446744073709551616)
    (rest : Bytes) : readNumber (writeVarint n ++ rest) = .ok (n, rest) := by
  rw [readNumber, readVarint_append h]

theorem Shape.ofCode?_code (shape : Shape) :
    Shape.ofCode? shape.code = some shape := by
  cases shape <;> rfl

theorem Shape.code_lt (shape : Shape) : shape.code < 8 := by
  cases shape <;> decide

theorem readKey_append {number : Nat} (hpositive : 0 < number)
    (hsmall : number < 536870912) (shape : Shape) (rest : Bytes) :
    readKey (writeKey number shape ++ rest) = .ok (⟨number, shape⟩, rest) := by
  have hcode := shape.code_lt
  have hshape : (8 * number + shape.code) % 8 = shape.code := by omega
  have hnumber : (8 * number + shape.code) / 8 = number := by omega
  rw [readKey, writeKey, readVarint_append (by omega)]
  simp only [hshape, hnumber, Shape.ofCode?_code]
  rw [if_neg (by omega), if_neg (by omega)]

theorem takeBytes_append (value rest : Bytes) :
    takeBytes value.length (value ++ rest) = .ok (value, rest) := by
  simp [takeBytes]

theorem readDelimited_append {value : Bytes}
    (h : value.length < 18446744073709551616) (rest : Bytes) :
    readDelimited (writeVarint value.length ++ (value ++ rest)) =
      .ok (value, rest) := by
  simp only [readDelimited, readNumber_append h, takeBytes_append]

theorem readText_append {text : String}
    (h : (Bytes.ofText text).length < 18446744073709551616) (rest : Bytes) :
    Field.readText (writeVarint (Bytes.ofText text).length ++
      (Bytes.ofText text ++ rest)) = .ok (text, rest) := by
  simp only [Field.readText, readDelimited_append h, Bytes.toText?_ofText]

theorem writeKey_ne_nil (number : Nat) (shape : Shape) :
    writeKey number shape ≠ [] :=
  writeVarint_ne_nil _

theorem length_le_writeDelimited (number : Nat) (value : Bytes) :
    value.length ≤ (writeDelimited number value).length := by
  simp only [writeDelimited, List.length_append]
  omega

theorem length_le_writeBytes (number : Nat) (value : Bytes) :
    value.length ≤ (writeBytes number value).length := by
  by_cases hempty : value = []
  · simp [hempty]
  · rw [writeBytes, if_neg (by simpa using hempty)]
    exact length_le_writeDelimited number value

/-! How many bytes a field takes. -/

theorem length_writeKey {number : Nat} (h : number < 16) (shape : Shape) :
    (writeKey number shape).length = 1 := by
  have hcode := shape.code_lt
  rw [writeKey, writeVarint_of_lt (by omega), List.length_singleton]

theorem length_writeNumber_le {number n k : Nat} (hnumber : number < 16)
    (h : n < 128 ^ (k + 1)) : (writeNumber number n).length ≤ k + 2 := by
  have hvalue := length_writeVarint_le h
  rw [writeNumber]
  split
  · exact Nat.zero_le _
  · rw [List.length_append, length_writeKey hnumber]
    omega

theorem length_writeDelimited_le {number k : Nat} {value : Bytes}
    (hnumber : number < 16) (h : value.length < 128 ^ (k + 1)) :
    (writeDelimited number value).length ≤ value.length + (k + 2) := by
  have hlength := length_writeVarint_le h
  rw [writeDelimited, List.length_append, List.length_append,
    length_writeKey hnumber]
  omega

theorem length_writeBytes_le {number k : Nat} {value : Bytes}
    (hnumber : number < 16) (h : value.length < 128 ^ (k + 1)) :
    (writeBytes number value).length ≤ value.length + (k + 2) := by
  rw [writeBytes]
  split
  · exact Nat.zero_le _
  · exact length_writeDelimited_le hnumber h

/-! Reading a message field by field. -/

namespace Schema

variable {M N : Type} {schema : Schema M} {depth limit : Nat} {m m' m'' : M}

theorem mergeUntil_done (bytes : Bytes) :
    schema.mergeUntil depth bytes.length m bytes = .ok (m, bytes) := by
  rw [mergeUntil]
  simp

theorem mergeUntil_nil :
    schema.mergeUntil depth 0 m [] = .ok (m, []) :=
  mergeUntil_done []

theorem mergeUntil_of_mergeField {bytes rest : Bytes}
    (hmore : limit < bytes.length)
    (h : schema.mergeField depth m bytes = .ok (m', rest)) :
    schema.mergeUntil depth limit m bytes =
      schema.mergeUntil depth limit m' rest := by
  rw [mergeUntil, if_pos hmore]
  split
  · rename_i hfield
    rw [h] at hfield
    cases hfield
  · rename_i hfield
    rw [h] at hfield
    cases hfield
    rfl

/-- The bytes take the message `m` to the message `m'`, whatever follows. -/
def Carries (schema : Schema M) (depth : Nat) (piece : Bytes) (m m' : M) :
    Prop :=
  ∀ limit rest, limit ≤ rest.length →
    schema.mergeUntil depth limit m (piece ++ rest) =
      schema.mergeUntil depth limit m' rest

theorem Carries.refl (schema : Schema M) (depth : Nat) (m : M) :
    schema.Carries depth [] m m :=
  fun _ _ _ => rfl

theorem Carries.append {first second : Bytes}
    (hfirst : schema.Carries depth first m m')
    (hsecond : schema.Carries depth second m' m'') :
    schema.Carries depth (first ++ second) m m'' := by
  intro limit rest hlimit
  have hroom : limit ≤ (second ++ rest).length := by
    rw [List.length_append]
    omega
  rw [List.append_assoc, hfirst limit _ hroom, hsecond limit rest hlimit]

theorem carries_of_mergeField {piece : Bytes} (hnonempty : piece ≠ [])
    (h : ∀ rest, schema.mergeField depth m (piece ++ rest) = .ok (m', rest)) :
    schema.Carries depth piece m m' := by
  intro limit rest hlimit
  have hpositive := List.length_pos_iff.mpr hnonempty
  apply mergeUntil_of_mergeField _ (h rest)
  rw [List.length_append]
  omega

theorem read_of_carries {bytes : Bytes}
    (h : schema.Carries maxDepth bytes m m') :
    schema.read m bytes = .ok m' := by
  have hmerge := h 0 [] (Nat.le_refl 0)
  rw [List.append_nil] at hmerge
  rw [read, hmerge, mergeUntil_nil]
  rfl

/-- A field is read by its own rule if its number is in the table. -/
theorem mergeField_writeKey_iff {number : Nat} {field : Field M}
    (hfield : schema.fields.lookup number = some field)
    (hpositive : 0 < number) (hsmall : number < 536870912) {shape : Shape}
    {bytes rest : Bytes} :
    schema.mergeField depth m (writeKey number shape ++ bytes) =
        .ok (m', rest) ↔
      field.merge depth shape m bytes = .ok (m', rest) := by
  simp only [mergeField, readKey_append hpositive hsmall, hfield]
  exact mapError_eq_ok_iff

/-- A number that is left out says the same as zero. -/
theorem carries_number (schema : Schema M) (depth number n : Nat) (m : M)
    {name : String} {put : Nat → M → M}
    (hfield : schema.fields.lookup number = some (.number name put))
    (hpositive : 0 < number) (hsmall : number < 536870912)
    (hn : n < 18446744073709551616) (hzero : n = 0 → put 0 m = m) :
    schema.Carries depth (writeNumber number n) m (put n m) := by
  by_cases hdefault : n = 0
  · subst hdefault
    rw [hzero rfl]
    exact Carries.refl schema depth m
  · rw [writeNumber, if_neg hdefault]
    apply carries_of_mergeField
    · simp [writeKey_ne_nil]
    · intro rest
      rw [List.append_assoc]
      apply (mergeField_writeKey_iff hfield hpositive hsmall).mpr
      simp only [Field.number, Field.scalar, Field.expect, if_true,
        readNumber_append hn]
      rfl

theorem carries_text (schema : Schema M) (depth number : Nat) (text : String)
    (m : M) {name : String} {put : String → M → M}
    (hfield : schema.fields.lookup number = some (.text name put))
    (hpositive : 0 < number) (hsmall : number < 536870912)
    (hlength : (Bytes.ofText text).length < 18446744073709551616)
    (hempty : text = "" → put "" m = m) :
    schema.Carries depth (writeBytes number (Bytes.ofText text)) m
      (put text m) := by
  by_cases hdefault : Bytes.ofText text = []
  · have htext : text = "" := by
      have hread := Bytes.toText?_ofText text
      rw [hdefault] at hread
      exact (Option.some.inj (hread.symm.trans (Bytes.toText?_ofText "")))
    rw [hdefault, htext, hempty htext]
    exact Carries.refl schema depth m
  · rw [writeBytes, if_neg (by simpa using hdefault), writeDelimited]
    apply carries_of_mergeField
    · simp [writeKey_ne_nil]
    · intro rest
      rw [List.append_assoc, List.append_assoc]
      apply (mergeField_writeKey_iff hfield hpositive hsmall).mpr
      simp only [Field.text, Field.scalar, Field.expect, if_true,
        readText_append hlength]
      rfl

theorem carries_bytes (schema : Schema M) (depth number : Nat) (value : Bytes)
    (m : M) {name : String} {put : Bytes → M → M}
    (hfield : schema.fields.lookup number = some (.bytes name put))
    (hpositive : 0 < number) (hsmall : number < 536870912)
    (hlength : value.length < 18446744073709551616)
    (hempty : value = [] → put [] m = m) :
    schema.Carries depth (writeBytes number value) m (put value m) := by
  by_cases hdefault : value = []
  · rw [hdefault, hempty hdefault]
    exact Carries.refl schema depth m
  · rw [writeBytes, if_neg (by simpa using hdefault), writeDelimited]
    apply carries_of_mergeField
    · simp [writeKey_ne_nil]
    · intro rest
      rw [List.append_assoc, List.append_assoc]
      apply (mergeField_writeKey_iff hfield hpositive hsmall).mpr
      simp only [Field.bytes, Field.scalar, Field.expect, if_true,
        readDelimited_append hlength]
      rfl

/-- An inner message is written also when its fields are all left out. -/
theorem carries_inner (schema : Schema M) (depth number : Nat) (value : Bytes)
    (m : M) {name : String} {inner : Schema N} {get : M → N} {put : N → M → M}
    {n : N}
    (hfield : schema.fields.lookup number =
      some (.inner name inner get put))
    (hpositive : 0 < number) (hsmall : number < 536870912)
    (hlength : value.length < 18446744073709551616)
    (hdepth : 0 < depth)
    (hinner : inner.Carries (depth - 1) value (get m) n) :
    schema.Carries depth (writeDelimited number value) m (put n m) := by
  rw [writeDelimited]
  apply carries_of_mergeField
  · simp [writeKey_ne_nil]
  · intro rest
    rw [List.append_assoc, List.append_assoc]
    apply (mergeField_writeKey_iff hfield hpositive hsmall).mpr
    have hroom : ¬(value ++ rest).length < value.length := by simp
    have hlimit : (value ++ rest).length - value.length = rest.length := by
      simp
    have hmerge := hinner rest.length rest (Nat.le_refl _)
    rw [mergeUntil_done] at hmerge
    simp only [Field.inner, ne_eq, not_true_eq_false, if_false,
      Nat.ne_of_gt hdepth, readNumber_append hlength, hroom, hlimit, hmerge]
    rfl

/-- A field that is not in the table is skipped. -/
theorem carries_unknown (schema : Schema M) (depth number : Nat)
    (value : Bytes) (m : M) (hfield : schema.fields.lookup number = none)
    (hpositive : 0 < number) (hsmall : number < 536870912)
    (hlength : value.length < 18446744073709551616) (hdepth : 0 < depth) :
    schema.Carries depth (writeDelimited number value) m m := by
  rw [writeDelimited]
  apply carries_of_mergeField
  · simp [writeKey_ne_nil]
  · intro rest
    rw [List.append_assoc, List.append_assoc]
    simp only [mergeField, readKey_append hpositive hsmall, hfield, skipField,
      Nat.ne_of_gt hdepth, if_false, skipValue, readDelimited_append hlength]
    rfl

end Schema

end LanRelay.Wire
