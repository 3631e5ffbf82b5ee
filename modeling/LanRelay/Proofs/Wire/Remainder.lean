/-
What reading uses up.

A reader uses up the front of what there is, and what it reads depends on
nothing behind that. So an inner message, which is read from everything behind
its length, is read as if it stood alone. And a field whose value stands behind
its length uses up that length, no matter what the value is taken for, so two
readers of the same bytes stay in step as long as both of them succeed.

Main statements: `Schema.mergeUntil_eq_ok_iff`, `Field.inner_merge_iff` and
`Schema.mergeUntil_together`.
-/
import LanRelay.Proofs.Outcome
import LanRelay.Proofs.Wire.Fields

namespace LanRelay.Wire

/-- The front of the bytes is used up, and what stands behind it makes no
difference. -/
structure Local (leaves : Bytes → Bytes → Prop) : Prop where
  split {bytes rest : Bytes} : leaves bytes rest →
    ∃ used, bytes = used ++ rest ∧ leaves used []
  append {used : Bytes} : leaves used [] →
    ∀ rest, leaves (used ++ rest) rest

namespace Local

variable {α : Type} {first second : Bytes → Bytes → Prop}
  {bytes tail rest : Bytes}

/-- What is left stays when more bytes stand behind it. -/
theorem extend (h : Local first) (hfirst : first bytes tail) (rest : Bytes) :
    first (bytes ++ rest) (tail ++ rest) := by
  obtain ⟨used, rfl, hused⟩ := h.split hfirst
  rw [List.append_assoc]
  exact h.append hused _

theorem of_forall_not (h : ∀ bytes rest, ¬first bytes rest) :
    Local first where
  split hfirst := absurd hfirst (h _ _)
  append hfirst := absurd hfirst (h _ _)

theorem congr (h : Local first)
    (hiff : ∀ bytes rest, second bytes rest ↔ first bytes rest) :
    Local second where
  split hsecond := by
    obtain ⟨used, hbytes, hused⟩ := h.split ((hiff _ _).mp hsecond)
    exact ⟨used, hbytes, (hiff _ _).mpr hused⟩
  append hsecond rest :=
    (hiff _ _).mpr (h.append ((hiff _ _).mp hsecond) rest)

theorem exists_value {leaves : α → Bytes → Bytes → Prop}
    (h : ∀ value, Local (leaves value)) :
    Local fun bytes rest => ∃ value, leaves value bytes rest where
  split := by
    rintro bytes rest ⟨value, hvalue⟩
    obtain ⟨used, hbytes, hused⟩ := (h value).split hvalue
    exact ⟨used, hbytes, value, hused⟩
  append := by
    rintro used ⟨value, hvalue⟩ rest
    exact ⟨value, (h value).append hvalue rest⟩

theorem const_and {p : Prop} (h : p → Local first) :
    Local fun bytes rest => p ∧ first bytes rest where
  split := by
    rintro bytes rest ⟨hp, hfirst⟩
    obtain ⟨used, hbytes, hused⟩ := (h hp).split hfirst
    exact ⟨used, hbytes, hp, hused⟩
  append := by
    rintro used ⟨hp, hfirst⟩ rest
    exact ⟨hp, (h hp).append hfirst rest⟩

theorem or (hfirst : Local first) (hsecond : Local second) :
    Local fun bytes rest => first bytes rest ∨ second bytes rest where
  split := by
    rintro bytes rest (hleft | hright)
    · obtain ⟨used, hbytes, hused⟩ := hfirst.split hleft
      exact ⟨used, hbytes, Or.inl hused⟩
    · obtain ⟨used, hbytes, hused⟩ := hsecond.split hright
      exact ⟨used, hbytes, Or.inr hused⟩
  append := by
    rintro used (hleft | hright) rest
    · exact Or.inl (hfirst.append hleft rest)
    · exact Or.inr (hsecond.append hright rest)

/-- One reader after the other. -/
theorem seq (hfirst : Local first) (hsecond : Local second) :
    Local fun bytes rest => ∃ tail, first bytes tail ∧ second tail rest where
  split := by
    rintro bytes rest ⟨tail, hread, hleft⟩
    obtain ⟨used', rfl, hused'⟩ := hsecond.split hleft
    obtain ⟨used, rfl, hused⟩ := hfirst.split hread
    exact ⟨used ++ used', (List.append_assoc ..).symm, used',
      hfirst.append hused used', hused'⟩
  append := by
    rintro used ⟨tail, hread, hleft⟩ rest
    exact ⟨tail ++ rest, hfirst.extend hread rest, hsecond.append hleft rest⟩

end Local

/-! Numbers, keys and lengths. -/

theorem readVarintWithin_local (room n : Nat) :
    Local fun bytes rest => readVarintWithin room bytes = some (n, rest) := by
  induction room generalizing n with
  | zero => exact .of_forall_not fun _ _ h => by cases h
  | succ room ih =>
      constructor
      · intro bytes rest h
        cases bytes with
        | nil => cases h
        | cons b bytes =>
            simp only [readVarintWithin] at h
            split at h
            · rename_i hlast
              split at h
              · cases h
              · rename_i hbit
                cases h
                refine ⟨[b], rfl, ?_⟩
                simp only [readVarintWithin, if_pos hlast, if_neg hbit]
            · rename_i hmore
              split at h
              · cases h
              · rename_i high tail hread
                cases h
                obtain ⟨used, rfl, hused⟩ := (ih high).split hread
                refine ⟨b :: used, rfl, ?_⟩
                simp only [readVarintWithin, if_neg hmore, hused]
      · intro used h rest
        cases used with
        | nil => cases h
        | cons b used =>
            simp only [List.cons_append, readVarintWithin] at h ⊢
            split at h
            · rename_i hlast
              split at h
              · cases h
              · rename_i hbit
                cases h
                rw [if_pos hlast, if_neg hbit, List.nil_append]
            · rename_i hmore
              split at h
              · cases h
              · rename_i high tail hread
                cases h
                rw [if_neg hmore, (ih high).append hread rest]

theorem readNumber_eq_ok_iff {bytes rest : Bytes} {n : Nat} :
    readNumber bytes = .ok (n, rest) ↔ readVarint bytes = some (n, rest) := by
  unfold readNumber
  cases readVarint bytes <;> simp

theorem readNumber_local (n : Nat) :
    Local fun bytes rest => readNumber bytes = .ok (n, rest) :=
  (readVarintWithin_local 10 n).congr fun _ _ => readNumber_eq_ok_iff

theorem readKey_eq_ok_iff {bytes rest : Bytes} {key : Key} :
    readKey bytes = .ok (key, rest) ↔
      ∃ n, (n < 4294967296 ∧ Shape.ofCode? (n % 8) = some key.shape ∧
        n / 8 = key.number ∧ key.number ≠ 0) ∧
          readVarint bytes = some (n, rest) := by
  obtain ⟨number, shape⟩ := key
  unfold readKey
  cases readVarint bytes with
  | none => simp
  | some read =>
      obtain ⟨n, tail⟩ := read
      constructor
      · intro h
        simp only at h
        split at h
        · cases h
        · split at h
          · cases h
          · rename_i hsmall shape' hshape
            split at h
            · cases h
            · rename_i hnumber
              cases h
              exact ⟨n, ⟨by omega, hshape, rfl, hnumber⟩, rfl⟩
      · rintro ⟨_, ⟨hsmall, hshape, rfl, hnumber⟩, hread⟩
        cases hread
        simp only [hshape]
        rw [if_neg (by omega), if_neg hnumber]

theorem readKey_local (key : Key) :
    Local fun bytes rest => readKey bytes = .ok (key, rest) :=
  (Local.exists_value fun n =>
    .const_and fun _ => readVarintWithin_local 10 n).congr
      fun _ _ => readKey_eq_ok_iff

theorem takeBytes_eq_ok_iff {n : Nat} {bytes front rest : Bytes} :
    takeBytes n bytes = .ok (front, rest) ↔
      front.length = n ∧ bytes = front ++ rest := by
  constructor
  · intro h
    unfold takeBytes at h
    split at h
    · cases h
    · cases h
      rename_i hroom
      refine ⟨?_, (List.take_append_drop n bytes).symm⟩
      rw [List.length_take]
      omega
  · rintro ⟨rfl, rfl⟩
    simp [takeBytes]

theorem takeBytes_local (n : Nat) (value : Bytes) :
    Local fun bytes rest => takeBytes n bytes = .ok (value, rest) where
  split h := by
    obtain ⟨hlength, hbytes⟩ := takeBytes_eq_ok_iff.mp h
    exact ⟨value, hbytes,
      takeBytes_eq_ok_iff.mpr ⟨hlength, (List.append_nil _).symm⟩⟩
  append h rest := by
    obtain ⟨hlength, rfl⟩ := takeBytes_eq_ok_iff.mp h
    rw [List.append_nil]
    exact takeBytes_eq_ok_iff.mpr ⟨hlength, rfl⟩

theorem readDelimited_eq_ok_iff {bytes value rest : Bytes} :
    readDelimited bytes = .ok (value, rest) ↔
      ∃ tail, readNumber bytes = .ok (value.length, tail) ∧
        takeBytes value.length tail = .ok (value, rest) := by
  constructor
  · intro h
    unfold readDelimited at h
    split at h
    · cases h
    · rename_i length tail hread
      obtain ⟨rfl, -⟩ := takeBytes_eq_ok_iff.mp h
      exact ⟨tail, hread, h⟩
  · rintro ⟨tail, hread, htake⟩
    rw [readDelimited, hread]
    exact htake

theorem readDelimited_local (value : Bytes) :
    Local fun bytes rest => readDelimited bytes = .ok (value, rest) :=
  ((readNumber_local value.length).seq (takeBytes_local ..)).congr
    fun _ _ => readDelimited_eq_ok_iff

/-! What is skipped. -/

theorem skipValue_local (shape : Shape) :
    Local fun bytes rest => skipValue shape bytes = .ok rest := by
  have hmap {α : Type} {read : Bytes → Except Cause (α × Bytes)}
      (h : ∀ value, Local fun bytes rest => read bytes = .ok (value, rest)) :
      Local fun bytes rest => (read bytes).map (·.2) = .ok rest :=
    (Local.exists_value h).congr fun bytes rest => by
      rw [map_eq_ok_iff, Prod.exists]
      simp
  cases shape with
  | varint => exact hmap readNumber_local
  | fixed64 => exact hmap (takeBytes_local 8)
  | delimited => exact hmap readDelimited_local
  | startGroup =>
      constructor
      · rintro bytes rest ⟨⟩
        exact ⟨[], rfl, rfl⟩
      · rintro used ⟨⟩ rest
        rfl
  | endGroup => exact .of_forall_not fun _ _ h => by cases h
  | fixed32 => exact hmap (takeBytes_local 4)

/-- A key in a group ends the group or stands in front of a value to skip. -/
theorem skipGroups_of_readKey {depth group : Nat} {outer : List Nat}
    {bytes tail : Bytes} {key : Key} (hkey : readKey bytes = .ok (key, tail)) :
    skipGroups depth (group :: outer) bytes =
      if key.shape = .endGroup then
        if key.number = group then skipGroups depth outer tail
        else .error .unexpectedEndGroup
      else if depth ≤ (group :: outer).length then .error .tooDeep
      else
        (skipValue key.shape tail).bind fun next =>
          if key.shape = .startGroup then
            skipGroups depth (key.number :: group :: outer) next
          else skipGroups depth (group :: outer) next := by
  rw [skipGroups]
  split
  · rename_i hfail
    rw [hkey] at hfail
    cases hfail
  · rename_i hread
    rw [hkey] at hread
    cases hread
    congr 2
    split
    · rename_i hfail
      rw [hfail]
      rfl
    · rename_i hvalue
      simp only [hvalue, Except.bind]

theorem skipGroups_local (depth : Nat) (groups : List Nat) :
    Local fun bytes rest => skipGroups depth groups bytes = .ok rest where
  split {bytes rest} h := by
    fun_induction skipGroups depth groups bytes with
    | case1 =>
        cases h
        exact ⟨[], rfl, by rw [skipGroups]⟩
    | case3 bytes outer key tail hkey _ hend ih =>
        obtain ⟨used, rfl, hused⟩ := ih h
        obtain ⟨front, rfl, hfront⟩ := (readKey_local key).split hkey
        refine ⟨front ++ used, (List.append_assoc ..).symm, ?_⟩
        have hkey' := (readKey_local key).append hfront used
        rw [skipGroups_of_readKey hkey', if_pos hend, if_pos rfl, hused]
    | case7 bytes _ _ key tail hkey _ hopen hdepth next hskip _ hshape ih
    | case8 bytes _ _ key tail hkey _ hopen hdepth next hskip _ hshape ih =>
        obtain ⟨used, rfl, hused⟩ := ih h
        obtain ⟨value, rfl, hvalue⟩ := (skipValue_local key.shape).split hskip
        obtain ⟨front, rfl, hfront⟩ := (readKey_local key).split hkey
        refine ⟨front ++ (value ++ used), by simp only [List.append_assoc], ?_⟩
        have hkey' := (readKey_local key).append hfront (value ++ used)
        have hskip' := (skipValue_local key.shape).append hvalue used
        rw [skipGroups_of_readKey hkey', if_neg hopen, if_neg hdepth, hskip']
        simp only [Except.bind, hshape, if_true, if_false, hused]
    | case2 | case4 | case5 | case6 => cases h
  append {used} h rest := by
    fun_induction skipGroups depth groups used with
    | case1 =>
        cases h
        rw [skipGroups, List.nil_append]
    | case3 bytes outer key tail hkey _ hend ih =>
        have hkey' := (readKey_local key).extend hkey rest
        rw [skipGroups_of_readKey hkey', if_pos hend, if_pos rfl, ih h]
    | case7 bytes _ _ key tail hkey _ hopen hdepth next hskip _ hshape ih
    | case8 bytes _ _ key tail hkey _ hopen hdepth next hskip _ hshape ih =>
        have hkey' := (readKey_local key).extend hkey rest
        have hskip' := (skipValue_local key.shape).extend hskip rest
        rw [skipGroups_of_readKey hkey', if_neg hopen, if_neg hdepth, hskip']
        simp only [Except.bind, hshape, if_true, if_false, ih h]
    | case2 | case4 | case5 | case6 => cases h

theorem skipField_local (depth : Nat) (key : Key) :
    Local fun bytes rest => skipField depth key bytes = .ok rest := by
  unfold skipField
  split
  · exact .of_forall_not fun _ _ h => by cases h
  · split
    · exact skipGroups_local ..
    · exact skipValue_local ..

/-- A value behind its length is skipped as it would be read. -/
theorem skipField_delimited {depth : Nat} {key : Key} {bytes rest : Bytes}
    (hshape : key.shape = .delimited)
    (h : skipField depth key bytes = .ok rest) :
    ∃ value, readDelimited bytes = .ok (value, rest) := by
  simp only [skipField, hshape] at h
  split at h
  · cases h
  · obtain ⟨⟨value, tail⟩, hread, rfl⟩ := map_eq_ok_iff.mp h
    exact ⟨value, hread⟩

/-! What a field does to its message. -/

namespace Field

variable {M N : Type} {depth : Nat} {shape : Shape} {m m' : M}
  {bytes rest : Bytes} {name : String}

theorem expect_eq_ok_iff {expected : Shape}
    {read : Bytes → Except Cause (N × Bytes)} {n : N} :
    expect expected shape read bytes = .ok (n, rest) ↔
      shape = expected ∧ read bytes = .ok (n, rest) := by
  unfold expect
  split
  · rename_i hshape
    rw [mapError_eq_ok_iff]
    exact (and_iff_right hshape).symm
  · rename_i hshape
    exact iff_of_false (fun h => by cases h) fun h => hshape h.1

theorem scalar_merge_iff {expected : Shape}
    {read : Bytes → Except Cause (N × Bytes)}
    (hread : ∀ {bytes rest : Bytes} {n : N}, read bytes = .ok (n, rest) →
      rest.length ≤ bytes.length) {put : N → M → M} :
    (scalar name expected read hread put).merge depth shape m bytes =
        .ok (m', rest) ↔
      ∃ n, (shape = expected ∧ put n m = m') ∧ read bytes = .ok (n, rest) := by
  constructor
  · intro h
    obtain ⟨⟨n, tail⟩, hexpect, heq⟩ := map_eq_ok_iff.mp h
    obtain ⟨rfl, rfl⟩ := Prod.mk.inj heq
    obtain ⟨hshape, hvalue⟩ := expect_eq_ok_iff.mp hexpect
    exact ⟨n, ⟨hshape, rfl⟩, hvalue⟩
  · rintro ⟨n, ⟨hshape, rfl⟩, hvalue⟩
    exact map_eq_ok_iff.mpr
      ⟨(n, rest), expect_eq_ok_iff.mpr ⟨hshape, hvalue⟩, rfl⟩

theorem readText_eq_ok_iff {text : String} :
    readText bytes = .ok (text, rest) ↔
      readDelimited bytes = .ok (Bytes.ofText text, rest) := by
  constructor
  · intro h
    unfold readText at h
    split at h
    · cases h
    · rename_i value tail hread
      split at h
      · cases h
      · rename_i htext
        cases h
        rw [hread, Bytes.ofText_of_toText? htext]
  · intro h
    simp only [readText, h, Bytes.toText?_ofText]

theorem number_merge_iff {put : Nat → M → M} :
    (number name put).merge depth shape m bytes = .ok (m', rest) ↔
      ∃ n, (shape = .varint ∧ put n m = m') ∧
        readNumber bytes = .ok (n, rest) :=
  scalar_merge_iff fun h => Nat.le_of_lt (readNumber_length_lt h)

theorem text_merge_iff {put : String → M → M} :
    (text name put).merge depth shape m bytes = .ok (m', rest) ↔
      ∃ text, (shape = .delimited ∧ put text m = m') ∧
        readDelimited bytes = .ok (Bytes.ofText text, rest) := by
  simp only [← readText_eq_ok_iff]
  exact scalar_merge_iff readText_length_le

/-- What the field does to its message depends on what it uses up. -/
def IsLocal (field : Field M) : Prop :=
  ∀ depth shape m m',
    Local fun bytes rest => field.merge depth shape m bytes = .ok (m', rest)

theorem scalar_isLocal {expected : Shape}
    {read : Bytes → Except Cause (N × Bytes)}
    (hread : ∀ {bytes rest : Bytes} {n : N}, read bytes = .ok (n, rest) →
      rest.length ≤ bytes.length) {put : N → M → M}
    (h : ∀ n, Local fun bytes rest => read bytes = .ok (n, rest)) :
    (scalar name expected read hread put).IsLocal := by
  intro depth shape m m'
  exact (Local.exists_value fun n => .const_and fun _ => h n).congr
    fun _ _ => scalar_merge_iff hread

theorem number_isLocal (name : String) (put : Nat → M → M) :
    (number name put).IsLocal :=
  scalar_isLocal (fun h => Nat.le_of_lt (readNumber_length_lt h))
    readNumber_local

theorem bytes_isLocal (name : String) (put : Bytes → M → M) :
    (Field.bytes name put).IsLocal :=
  scalar_isLocal readDelimited_length_le readDelimited_local

theorem text_isLocal (name : String) (put : String → M → M) :
    (text name put).IsLocal :=
  scalar_isLocal readText_length_le fun text =>
    (readDelimited_local (Bytes.ofText text)).congr
      fun _ _ => readText_eq_ok_iff

end Field

namespace Schema

variable {M N : Type} {schema : Schema M} {depth limit : Nat} {m m' : M}
  {bytes rest : Bytes}

theorem mem_fields_of_lookup {number : Nat} {field : Field M}
    (h : schema.fields.lookup number = some field) :
    (number, field) ∈ schema.fields := by
  obtain ⟨before, after, hentries, -⟩ := List.lookup_eq_some_iff.mp h
  simp [hentries]

theorem mergeField_eq_ok_iff :
    schema.mergeField depth m bytes = .ok (m', rest) ↔
      ∃ key tail, readKey bytes = .ok (key, tail) ∧
        ((∃ field, schema.fields.lookup key.number = some field ∧
            field.merge depth key.shape m tail = .ok (m', rest)) ∨
          (schema.fields.lookup key.number = none ∧ m' = m) ∧
            skipField depth key tail = .ok rest) := by
  constructor
  · intro h
    unfold mergeField at h
    split at h
    · cases h
    · rename_i key tail hkey
      refine ⟨key, tail, hkey, ?_⟩
      split at h
      · rename_i field hfield
        exact Or.inl ⟨field, hfield, mapError_eq_ok_iff.mp h⟩
      · rename_i hunknown
        split at h
        · cases h
        · rename_i hskip
          cases h
          exact Or.inr ⟨⟨hunknown, rfl⟩, hskip⟩
  · rintro ⟨key, tail, hkey, ⟨field, hfield, hmerge⟩ |
      ⟨⟨hunknown, rfl⟩, hskip⟩⟩
    · simp only [mergeField, hkey, hfield]
      exact mapError_eq_ok_iff.mpr hmerge
    · simp only [mergeField, hkey, hunknown, hskip]

/-- A message is read to its end, or one field further. -/
theorem mergeUntil_eq_ok
    (h : schema.mergeUntil depth limit m bytes = .ok (m', rest)) :
    (bytes.length = limit ∧ m' = m ∧ rest = bytes) ∨
      limit < bytes.length ∧
        ∃ next tail, schema.mergeField depth m bytes = .ok (next, tail) ∧
          schema.mergeUntil depth limit next tail = .ok (m', rest) := by
  rw [mergeUntil] at h
  split at h
  · rename_i hmore
    split at h
    · cases h
    · rename_i next tail hfield
      exact Or.inr ⟨hmore, next, tail, hfield, h⟩
  · split at h
    · rename_i hlimit
      cases h
      exact Or.inl ⟨hlimit, rfl, rfl⟩
    · cases h

/-- All fields of the message depend on what they use up. -/
def IsLocal (schema : Schema M) : Prop :=
  ∀ number field, (number, field) ∈ schema.fields → field.IsLocal

theorem IsLocal.mergeField (h : schema.IsLocal) (depth : Nat) (m m' : M) :
    Local fun bytes rest =>
      schema.mergeField depth m bytes = .ok (m', rest) := by
  refine (Local.exists_value fun key => (readKey_local key).seq ?_).congr
    fun _ _ => mergeField_eq_ok_iff
  refine .or (.exists_value fun field => .const_and fun hfield => ?_)
    (.const_and fun _ => skipField_local depth key)
  exact h key.number field (mem_fields_of_lookup hfield) depth key.shape m m'

/-- What takes one message to another as long as nothing follows does so
whatever follows. -/
theorem IsLocal.carries (h : schema.IsLocal) {piece : Bytes}
    (hpiece : schema.mergeUntil depth 0 m piece = .ok (m', [])) :
    schema.Carries depth piece m m' := by
  intro limit rest hlimit
  fun_induction mergeUntil schema depth 0 m piece with
  | case1 => cases hpiece
  | case2 m piece hmore next tail hfield _ ih =>
      have hfield' := (h.mergeField depth m next).extend hfield rest
      rw [mergeUntil_of_mergeField _ hfield', ih hpiece]
      rw [List.length_append]
      omega
  | case3 m piece =>
      cases hpiece
      rfl
  | case4 => cases hpiece

/-- Reading up to a limit uses up what stands before it. -/
theorem IsLocal.mergeUntil_eq_ok_iff (h : schema.IsLocal) :
    schema.mergeUntil depth limit m bytes = .ok (m', rest) ↔
      ∃ used, bytes = used ++ rest ∧ rest.length = limit ∧
        schema.mergeUntil depth 0 m used = .ok (m', []) := by
  constructor
  · intro hmerge
    fun_induction mergeUntil schema depth limit m bytes with
    | case1 => cases hmerge
    | case2 m bytes hmore next tail hfield _ ih =>
        obtain ⟨used, rfl, hlength, hused⟩ := ih hmerge
        obtain ⟨front, rfl, hfront⟩ := (h.mergeField depth m next).split hfield
        refine ⟨front ++ used, (List.append_assoc ..).symm, hlength, ?_⟩
        have hfield' := (h.mergeField depth m next).append hfront used
        have hless := mergeField_length_lt hfield'
        rw [mergeUntil_of_mergeField (by omega) hfield', hused]
    | case3 m bytes _ hlimit =>
        cases hmerge
        exact ⟨[], rfl, hlimit, mergeUntil_nil⟩
    | case4 => cases hmerge
  · rintro ⟨used, rfl, rfl, hused⟩
    rw [h.carries hused _ rest (Nat.le_refl _), mergeUntil_done]

end Schema

/-- An inner message is read as if it stood alone. -/
theorem Field.inner_merge_iff {M N : Type} {inner : Schema N} {name : String}
    {get : M → N} {put : N → M → M} {depth : Nat} {shape : Shape} {m m' : M}
    {bytes rest : Bytes} (hinner : inner.IsLocal) :
    (Field.inner name inner get put).merge depth shape m bytes =
        .ok (m', rest) ↔
      ∃ n value, (shape = .delimited ∧ 0 < depth ∧ put n m = m') ∧
        readDelimited bytes = .ok (value, rest) ∧
          inner.mergeUntil (depth - 1) 0 (get m) value = .ok (n, []) := by
  constructor
  · intro h
    simp only [Field.inner] at h
    split at h
    · cases h
    · rename_i hshape
      split at h
      · cases h
      · rename_i hdepth
        split at h
        · cases h
        · rename_i length tail hread
          split at h
          · cases h
          · rename_i hroom
            obtain ⟨⟨n, rest'⟩, hmerge, heq⟩ := map_eq_ok_iff.mp h
            obtain ⟨rfl, rfl⟩ := Prod.mk.inj heq
            obtain ⟨value, rfl, hlength, hvalue⟩ :=
              hinner.mergeUntil_eq_ok_iff.mp hmerge
            have hsize : value.length = length := by
              rw [List.length_append] at hlength hroom
              omega
            subst hsize
            exact ⟨n, value, ⟨Decidable.not_not.mp hshape,
                Nat.pos_of_ne_zero hdepth, rfl⟩,
              readDelimited_eq_ok_iff.mpr
                ⟨_, hread, takeBytes_eq_ok_iff.mpr ⟨rfl, rfl⟩⟩, hvalue⟩
  · rintro ⟨n, value, ⟨rfl, hdepth, rfl⟩, hread, hvalue⟩
    obtain ⟨tail, hlength, htake⟩ := readDelimited_eq_ok_iff.mp hread
    obtain ⟨-, rfl⟩ := takeBytes_eq_ok_iff.mp htake
    have hroom : ¬(value ++ rest).length < value.length := by simp
    have hmerge : inner.mergeUntil (depth - 1) rest.length (get m)
        (value ++ rest) = .ok (n, rest) :=
      hinner.mergeUntil_eq_ok_iff.mpr ⟨value, rfl, rfl, hvalue⟩
    simp only [Field.inner, ne_eq, not_true_eq_false, if_false,
      Nat.ne_of_gt hdepth, hlength, hroom]
    rw [show (value ++ rest).length - value.length = rest.length by simp,
      hmerge]
    rfl

/-- Bytes that are written as they are may be read as an inner message. -/
theorem Schema.mergeUntil_writeBytes_iff {M N : Type} {schema : Schema M}
    {inner : Schema N} {name : String} {get : M → N} {put : N → M → M}
    {depth limit number : Nat} {m : M} {value rest : Bytes} {read : M × Bytes}
    (hinner : inner.IsLocal)
    (hfield : schema.fields.lookup number =
      some (.inner name inner get put))
    (hpositive : 0 < number) (hsmall : number < 536870912)
    (hlength : value.length < 18446744073709551616) (hdepth : 0 < depth)
    (hlimit : limit ≤ rest.length) :
    schema.mergeUntil depth limit m (writeBytes number value ++ rest) =
        .ok read ↔
      ∃ n, inner.mergeUntil (depth - 1) 0 (get m) value = .ok (n, []) ∧
        schema.mergeUntil depth limit
          (if value.isEmpty then m else put n m) rest = .ok read := by
  rw [writeBytes]
  split
  · rename_i hempty
    rw [List.isEmpty_iff.mp hempty, List.nil_append]
    constructor
    · intro h
      exact ⟨get m, mergeUntil_nil, h⟩
    · rintro ⟨n, -, h⟩
      exact h
  · constructor
    · intro h
      obtain ⟨m', rest'⟩ := read
      obtain ⟨hdone, -⟩ | ⟨-, next, tail, hmerge, hrest⟩ := mergeUntil_eq_ok h
      · have hkey := List.length_pos_iff.mpr (writeKey_ne_nil number .delimited)
        simp only [writeDelimited, List.length_append] at hdone
        omega
      · rw [writeDelimited, List.append_assoc, List.append_assoc,
          mergeField_writeKey_iff hfield hpositive hsmall,
          Field.inner_merge_iff hinner] at hmerge
        obtain ⟨n, value', ⟨-, -, rfl⟩, hread, hvalue⟩ := hmerge
        rw [readDelimited_append hlength] at hread
        cases hread
        exact ⟨n, hvalue, hrest⟩
    · rintro ⟨n, hvalue, h⟩
      rw [carries_inner schema depth number value m hfield hpositive hsmall
        hlength hdepth (hinner.carries hvalue) limit rest hlimit]
      exact h

/-- Two readers of the same bytes stay in step and keep what they have in
common, if each pair of fields does. -/
theorem Schema.mergeUntil_together {M N : Type} {first : Schema M}
    {second : Schema N} {Both : M → N → Prop} {depth limit : Nat}
    (hstep : ∀ {m n bytes m' n' rest rest'}, Both m n →
      first.mergeField depth m bytes = .ok (m', rest) →
      second.mergeField depth n bytes = .ok (n', rest') →
        rest' = rest ∧ Both m' n')
    {m m' : M} {n n' : N} {bytes rest rest' : Bytes} (hboth : Both m n)
    (hfirst : first.mergeUntil depth limit m bytes = .ok (m', rest))
    (hsecond : second.mergeUntil depth limit n bytes = .ok (n', rest')) :
    Both m' n' := by
  -- By the fields of the first reader; the second takes the same one each time.
  fun_induction mergeUntil first depth limit m bytes generalizing n with
  | case1 => cases hfirst
  | case2 m bytes hmore next tail hfield _ ih =>
      obtain ⟨hdone, -⟩ | ⟨-, next', tail', hfield', hmerge'⟩ :=
        mergeUntil_eq_ok hsecond
      · omega
      · obtain ⟨rfl, hnext⟩ := hstep hboth hfield hfield'
        exact ih hnext hfirst hmerge'
  | case3 m bytes hdone hlimit =>
      cases hfirst
      obtain ⟨-, rfl, -⟩ | ⟨hmore, -⟩ := mergeUntil_eq_ok hsecond
      · exact hboth
      · omega
  | case4 => cases hfirst

end LanRelay.Wire
