/-
Messages that are cut off.

A field is skipped as it is read, so where it ends does not depend on the
message that it is read for. The front of a message is therefore a message
itself exactly when it is made of whole fields.

Main statements: `Schema.IsPlain.exists_read_iff`, and
`WholeFields.eq_nil_or_exists`, by which whole fields at the front of written
ones are the first of these.
-/
import LanRelay.Proofs.Wire.Remainder

namespace LanRelay.Wire

variable {M N : Type}

/-- The front of the bytes is a field, and the rest stands behind it. -/
def FieldEnds (bytes rest : Bytes) : Prop :=
  ∃ key tail, readKey bytes = .ok (key, tail) ∧
    skipField Schema.maxDepth key tail = .ok rest

/-- The bytes are fields, one after the other, and none is cut off. -/
inductive WholeFields : Bytes → Prop where
  | nil : WholeFields []
  | field {bytes rest : Bytes} (h : FieldEnds bytes rest)
      (hrest : WholeFields rest) : WholeFields bytes

theorem fieldEnds_local : Local FieldEnds :=
  .exists_value fun key =>
    (readKey_local key).seq (skipField_local Schema.maxDepth key)

theorem FieldEnds.unique {bytes rest rest' : Bytes}
    (h : FieldEnds bytes rest) (h' : FieldEnds bytes rest') : rest' = rest := by
  obtain ⟨key, tail, hkey, hskip⟩ := h
  obtain ⟨key', tail', hkey', hskip'⟩ := h'
  obtain ⟨rfl, rfl⟩ := Prod.mk.inj (Except.ok.inj (hkey.symm.trans hkey'))
  exact Except.ok.inj (hskip'.symm.trans hskip)

theorem FieldEnds.length_lt {bytes rest : Bytes} (h : FieldEnds bytes rest) :
    rest.length < bytes.length := by
  obtain ⟨key, tail, hkey, hskip⟩ := h
  have hread := readKey_length_lt hkey
  have hvalue := skipField_length_le hskip
  omega

/-- A written field ends where it was written to. -/
theorem fieldEnds_writeDelimited {number : Nat} {value : Bytes}
    (hpositive : 0 < number) (hsmall : number < 536870912)
    (hlength : value.length < 18446744073709551616) (rest : Bytes) :
    FieldEnds (writeDelimited number value ++ rest) rest := by
  rw [writeDelimited, List.append_assoc, List.append_assoc]
  refine ⟨_, _, readKey_append hpositive hsmall _ _, ?_⟩
  simp only [skipField, skipValue, readDelimited_append hlength]
  rfl

/-- Whole fields at the front are none, or the first field is one of them. -/
theorem WholeFields.eq_nil_or_exists {front behind piece tail : Bytes}
    (h : WholeFields front) (hends : FieldEnds (piece ++ tail) tail)
    (hsame : front ++ behind = piece ++ tail) :
    front = [] ∨ ∃ rest, front = piece ++ rest ∧ rest ++ behind = tail ∧
      WholeFields rest := by
  cases h with
  | nil => exact Or.inl rfl
  | @field front rest hfield hrest =>
      have hwhole := fieldEnds_local.extend hfield behind
      rw [hsame] at hwhole
      have htail : rest ++ behind = tail := hends.unique hwhole
      refine Or.inr ⟨rest, ?_, htail, hrest⟩
      rw [← htail, ← List.append_assoc] at hsame
      exact List.append_cancel_right hsame

/-- An empty value is left out. -/
theorem WholeFields.eq_nil_or_exists_writeBytes {number : Nat}
    {front behind value tail : Bytes} (h : WholeFields front)
    (hpositive : 0 < number) (hsmall : number < 536870912)
    (hlength : value.length < 18446744073709551616)
    (hsame : front ++ behind = writeBytes number value ++ tail) :
    front = [] ∨ ∃ rest, front = writeBytes number value ++ rest ∧
      rest ++ behind = tail ∧ WholeFields rest := by
  rw [writeBytes] at hsame ⊢
  split at hsame
  · rename_i hempty
    rw [if_pos hempty]
    exact Or.inr ⟨front, rfl, hsame, h⟩
  · rename_i hvalue
    rw [if_neg hvalue]
    exact h.eq_nil_or_exists
      (fieldEnds_writeDelimited hpositive hsmall hlength tail) hsame

/-! A field is skipped as it is read. -/

namespace Field

/-- What the field does to its message depends on what it uses up, and a message
without the field skips as much. -/
structure IsPlain (field : Field M) : Prop where
  isLocal : field.IsLocal
  skipField {depth number : Nat} {shape : Shape} {m m' : M}
    {bytes rest : Bytes} : 0 < depth →
      field.merge depth shape m bytes = .ok (m', rest) →
        skipField depth ⟨number, shape⟩ bytes = .ok rest

variable {depth number : Nat} {value bytes rest : Bytes}

theorem skipField_of_readNumber {n : Nat} (hdepth : 0 < depth)
    (h : readNumber bytes = .ok (n, rest)) :
    Wire.skipField depth ⟨number, .varint⟩ bytes = .ok rest := by
  simp only [Wire.skipField, skipValue, Nat.ne_of_gt hdepth, if_false, h]
  rfl

theorem skipField_of_readDelimited (hdepth : 0 < depth)
    (h : readDelimited bytes = .ok (value, rest)) :
    Wire.skipField depth ⟨number, .delimited⟩ bytes = .ok rest := by
  simp only [Wire.skipField, skipValue, Nat.ne_of_gt hdepth, if_false, h]
  rfl

theorem number_isPlain (name : String) (put : Nat → M → M) :
    (Field.number name put).IsPlain where
  isLocal := number_isLocal name put
  skipField hdepth h := by
    obtain ⟨n, ⟨rfl, -⟩, hread⟩ := number_merge_iff.mp h
    exact skipField_of_readNumber hdepth hread

theorem text_isPlain (name : String) (put : String → M → M) :
    (text name put).IsPlain where
  isLocal := text_isLocal name put
  skipField hdepth h := by
    obtain ⟨text, ⟨rfl, -⟩, hread⟩ := text_merge_iff.mp h
    exact skipField_of_readDelimited hdepth hread

theorem inner_isLocal {inner : Schema N} (hinner : inner.IsLocal)
    (name : String) (get : M → N) (put : N → M → M) :
    (Field.inner name inner get put).IsLocal := by
  intro depth shape m m'
  have hvalue (n : N) (value : Bytes) : Local fun bytes rest =>
      ((shape = .delimited ∧ 0 < depth ∧ put n m = m') ∧
        inner.mergeUntil (depth - 1) 0 (get m) value = .ok (n, [])) ∧
          readDelimited bytes = .ok (value, rest) :=
    .const_and fun _ => readDelimited_local value
  refine (Local.exists_value fun n => .exists_value (hvalue n)).congr
    fun bytes rest => (inner_merge_iff hinner).trans ?_
  exact exists_congr fun n => exists_congr fun value =>
    (and_congr_right' and_comm).trans and_assoc.symm

theorem inner_isPlain {inner : Schema N} (hinner : inner.IsLocal)
    (name : String) (get : M → N) (put : N → M → M) :
    (Field.inner name inner get put).IsPlain where
  isLocal := inner_isLocal hinner name get put
  skipField hdepth h := by
    obtain ⟨n, value, ⟨rfl, -⟩, hread, -⟩ := (inner_merge_iff hinner).mp h
    exact skipField_of_readDelimited hdepth hread

end Field

namespace Schema

variable {schema : Schema M}

/-- All fields of the message are plain. -/
def IsPlain (schema : Schema M) : Prop :=
  ∀ number field, (number, field) ∈ schema.fields → field.IsPlain

theorem IsPlain.isLocal (h : schema.IsPlain) : schema.IsLocal :=
  fun number field hfield => (h number field hfield).isLocal

theorem IsPlain.fieldEnds (h : schema.IsPlain) {m m' : M}
    {bytes rest : Bytes}
    (hmerge : schema.mergeField maxDepth m bytes = .ok (m', rest)) :
    FieldEnds bytes rest := by
  obtain ⟨key, tail, hkey, ⟨field, hlookup, hfield⟩ | ⟨-, hskip⟩⟩ :=
    mergeField_eq_ok_iff.mp hmerge
  · have hplain := h key.number field (mem_fields_of_lookup hlookup)
    exact ⟨key, tail, hkey, hplain.skipField (by decide) hfield⟩
  · exact ⟨key, tail, hkey, hskip⟩

/-- What is read as a message is made of whole fields. -/
theorem IsPlain.wholeFields (h : schema.IsPlain) {m m' : M} {bytes : Bytes}
    (hread : schema.mergeUntil maxDepth 0 m bytes = .ok (m', [])) :
    WholeFields bytes := by
  fun_induction mergeUntil schema maxDepth 0 m bytes with
  | case1 => cases hread
  | case2 m bytes _ next tail hfield _ ih =>
      exact .field (h.fieldEnds hfield) (ih hread)
  | case3 m bytes _ hempty =>
      rw [List.length_eq_zero_iff.mp hempty]
      exact .nil
  | case4 => cases hread

/-- Whole fields at the front of what can be read can be read by themselves. -/
theorem IsPlain.exists_mergeUntil (h : schema.IsPlain) {front behind : Bytes}
    (hfront : WholeFields front) {m m' : M}
    (hread : schema.mergeUntil maxDepth 0 m (front ++ behind) = .ok (m', [])) :
    ∃ m'', schema.mergeUntil maxDepth 0 m front = .ok (m'', []) := by
  induction hfront generalizing m with
  | nil => exact ⟨m, mergeUntil_nil⟩
  | @field front rest hends _ ih =>
      have hshorter := hends.length_lt
      obtain ⟨hempty, -⟩ | ⟨-, next, tail, hmerge, hnext⟩ :=
        mergeUntil_eq_ok hread
      · rw [List.length_append] at hempty
        omega
      · -- The first field of the whole ends where that of the front does.
        obtain rfl := (fieldEnds_local.extend hends behind).unique
          (h.fieldEnds hmerge)
        obtain ⟨used, hused, hfield⟩ :=
          (h.isLocal.mergeField maxDepth m next).split hmerge
        rw [← List.append_assoc] at hused
        obtain rfl := List.append_cancel_right hused
        obtain ⟨m'', hmessage⟩ := ih hnext
        have hfield' :=
          (h.isLocal.mergeField maxDepth m next).append hfield rest
        have hfirst :=
          mergeUntil_of_mergeField (Nat.zero_lt_of_lt hshorter) hfield'
        exact ⟨m'', hfirst.trans hmessage⟩

theorem IsPlain.read_eq_ok_iff (h : schema.IsPlain) {m m' : M}
    {bytes : Bytes} :
    schema.read m bytes = .ok m' ↔
      schema.mergeUntil maxDepth 0 m bytes = .ok (m', []) := by
  constructor
  · intro hread
    obtain ⟨⟨m', rest⟩, hmerge, rfl⟩ := map_eq_ok_iff.mp hread
    obtain ⟨used, -, hend, -⟩ := h.isLocal.mergeUntil_eq_ok_iff.mp hmerge
    rw [List.length_eq_zero_iff.mp hend] at hmerge
    exact hmerge
  · intro hmerge
    rw [read, hmerge]
    rfl

theorem IsPlain.wholeFields_of_read (h : schema.IsPlain) {m m' : M}
    {bytes : Bytes} (hread : schema.read m bytes = .ok m') :
    WholeFields bytes :=
  h.wholeFields (h.read_eq_ok_iff.mp hread)

/-- The front of a message is a message if and only if it is made of whole
fields. -/
theorem IsPlain.exists_read_iff (h : schema.IsPlain) {m m' : M}
    {bytes : Bytes} (hread : schema.read m bytes = .ok m') (n : Nat) :
    (∃ m'', schema.read m (bytes.take n) = .ok m'') ↔
      WholeFields (bytes.take n) := by
  constructor
  · rintro ⟨m'', hfront⟩
    exact h.wholeFields_of_read hfront
  · intro hfront
    rw [← List.take_append_drop n bytes] at hread
    obtain ⟨m'', hmerge⟩ :=
      h.exists_mergeUntil hfront (h.read_eq_ok_iff.mp hread)
    exact ⟨m'', h.read_eq_ok_iff.mpr hmerge⟩

end Schema

end LanRelay.Wire
