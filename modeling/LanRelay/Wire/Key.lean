/-
Field keys, the failures of reading a message, and the skipping of fields that
a message does not know.

A key holds the number of a field and the shape of its value. An unknown group
is skipped together with everything inside it; the depth of nested groups and
messages is bounded.
-/
import LanRelay.Wire.Varint

namespace LanRelay.Wire

/-- The shape of a value on the wire. -/
inductive Shape where
  | varint
  | fixed64
  | delimited
  | startGroup
  | endGroup
  | fixed32
deriving DecidableEq, Repr

namespace Shape

def ofCode? : Nat → Option Shape
  | 0 => some varint
  | 1 => some fixed64
  | 2 => some delimited
  | 3 => some startGroup
  | 4 => some endGroup
  | 5 => some fixed32
  | _ => none

def code : Shape → Nat
  | varint => 0
  | fixed64 => 1
  | delimited => 2
  | startGroup => 3
  | endGroup => 4
  | fixed32 => 5

def name : Shape → String
  | varint => "Varint"
  | fixed64 => "SixtyFourBit"
  | delimited => "LengthDelimited"
  | startGroup => "StartGroup"
  | endGroup => "EndGroup"
  | fixed32 => "ThirtyTwoBit"

end Shape

/-- Why a message cannot be read. -/
inductive Cause where
  | invalidVarint
  /-- A length reaches past the end. -/
  | underflow
  /-- The fields of an inner message do not end where its length says. -/
  | lengthExceeded
  /-- A key takes more than 32 bits. -/
  | invalidKey (key : Nat)
  | invalidShape (code : Nat)
  | zeroNumber
  | unexpectedShape (actual expected : Shape)
  | notUtf8
  | unexpectedEndGroup
  | tooDeep
deriving DecidableEq, Repr

def Cause.message : Cause → String
  | invalidVarint => "invalid varint"
  | underflow => "buffer underflow"
  | lengthExceeded => "delimited length exceeded"
  | invalidKey key => s!"invalid key value: {key}"
  | invalidShape code => s!"invalid wire type value: {code}"
  | zeroNumber => "invalid tag value: 0"
  | unexpectedShape actual expected =>
      s!"invalid wire type: {actual.name} (expected {expected.name})"
  | notUtf8 => "invalid string value: data is not UTF-8 encoded"
  | unexpectedEndGroup => "unexpected end group tag"
  | tooDeep => "recursion limit reached"

/-- The key in front of a value. -/
structure Key where
  number : Nat
  shape : Shape
deriving DecidableEq, Repr

def readNumber (bytes : Bytes) : Except Cause (Nat × Bytes) :=
  match readVarint bytes with
  | none => .error .invalidVarint
  | some read => .ok read

def readKey (bytes : Bytes) : Except Cause (Key × Bytes) :=
  match readVarint bytes with
  | none => .error .invalidVarint
  | some (key, rest) =>
      if 4294967296 ≤ key then .error (.invalidKey key)
      else
        match Shape.ofCode? (key % 8) with
        | none => .error (.invalidShape (key % 8))
        | some shape =>
            if key / 8 = 0 then .error .zeroNumber
            else .ok (⟨key / 8, shape⟩, rest)

/-- Cut `n` bytes off the front. -/
def takeBytes (n : Nat) (bytes : Bytes) : Except Cause (Bytes × Bytes) :=
  if bytes.length < n then .error .underflow
  else .ok (bytes.take n, bytes.drop n)

/-- The bytes of a value that is preceded by its length. -/
def readDelimited (bytes : Bytes) : Except Cause (Bytes × Bytes) :=
  match readNumber bytes with
  | .error cause => .error cause
  | .ok (length, rest) => takeBytes length rest

/-- Skip a value that is not a group. -/
def skipValue (shape : Shape) (bytes : Bytes) : Except Cause Bytes :=
  match shape with
  | .varint => (readNumber bytes).map (·.2)
  | .fixed64 => (takeBytes 8 bytes).map (·.2)
  | .fixed32 => (takeBytes 4 bytes).map (·.2)
  | .delimited => (readDelimited bytes).map (·.2)
  | .startGroup => .ok bytes
  | .endGroup => .error .unexpectedEndGroup

theorem readNumber_length_lt {bytes rest : Bytes} {n : Nat}
    (h : readNumber bytes = .ok (n, rest)) : rest.length < bytes.length := by
  unfold readNumber at h
  split at h
  · cases h
  · rename_i hread
    cases h
    exact readVarint_length_lt hread

theorem readKey_length_lt {bytes rest : Bytes} {key : Key}
    (h : readKey bytes = .ok (key, rest)) : rest.length < bytes.length := by
  unfold readKey at h
  split at h
  · cases h
  · rename_i hread
    split at h
    · cases h
    · split at h
      · cases h
      · split at h
        · cases h
        · cases h
          exact readVarint_length_lt hread

theorem takeBytes_length_le {n : Nat} {bytes front rest : Bytes}
    (h : takeBytes n bytes = .ok (front, rest)) :
    rest.length ≤ bytes.length := by
  unfold takeBytes at h
  split at h
  · cases h
  · cases h
    simp

theorem readDelimited_length_le {bytes front rest : Bytes}
    (h : readDelimited bytes = .ok (front, rest)) :
    rest.length ≤ bytes.length := by
  unfold readDelimited at h
  split at h
  · cases h
  · rename_i hread
    have hnumber := readNumber_length_lt hread
    have htake := takeBytes_length_le h
    omega

/-- What a mapped reading hands back was read. -/
theorem eq_ok_of_map_eq_ok {ε α β : Type} {f : α → β} {x : Except ε α} {b : β}
    (h : x.map f = .ok b) : ∃ a, x = .ok a ∧ f a = b := by
  cases x with
  | error e => cases h
  | ok a =>
      cases h
      exact ⟨a, rfl, rfl⟩

theorem skipValue_length_le {shape : Shape} {bytes rest : Bytes}
    (h : skipValue shape bytes = .ok rest) : rest.length ≤ bytes.length := by
  cases shape with
  | varint =>
      obtain ⟨⟨n, tail⟩, hread, rfl⟩ := eq_ok_of_map_eq_ok h
      exact Nat.le_of_lt (readNumber_length_lt hread)
  | fixed64 =>
      obtain ⟨⟨front, tail⟩, hread, rfl⟩ := eq_ok_of_map_eq_ok h
      exact takeBytes_length_le hread
  | delimited =>
      obtain ⟨⟨front, tail⟩, hread, rfl⟩ := eq_ok_of_map_eq_ok h
      exact readDelimited_length_le hread
  | startGroup =>
      cases h
      exact Nat.le_refl _
  | endGroup => cases h
  | fixed32 =>
      obtain ⟨⟨front, tail⟩, hread, rfl⟩ := eq_ok_of_map_eq_ok h
      exact takeBytes_length_le hread

/-- Skip to the end of the groups that are open, the innermost one first.
`depth` bounds how many of them may be open around a value. -/
def skipGroups (depth : Nat) (groups : List Nat) (bytes : Bytes) :
    Except Cause Bytes :=
  match groups with
  | [] => .ok bytes
  | group :: outer =>
      match hkey : readKey bytes with
      | .error cause => .error cause
      | .ok (key, rest) =>
          have _hread := readKey_length_lt hkey
          if key.shape = .endGroup then
            if key.number = group then skipGroups depth outer rest
            else .error .unexpectedEndGroup
          else if depth ≤ (group :: outer).length then .error .tooDeep
          else
            match hskip : skipValue key.shape rest with
            | .error cause => .error cause
            | .ok tail =>
                have _hvalue := skipValue_length_le hskip
                if key.shape = .startGroup then
                  skipGroups depth (key.number :: group :: outer) tail
                else skipGroups depth (group :: outer) tail
termination_by bytes.length

/-- Skip the value of an unknown field. -/
def skipField (depth : Nat) (key : Key) (bytes : Bytes) :
    Except Cause Bytes :=
  if depth = 0 then .error .tooDeep
  else if key.shape = .startGroup then skipGroups depth [key.number] bytes
  else skipValue key.shape bytes

theorem skipGroups_length_le {depth : Nat} {groups : List Nat}
    {bytes rest : Bytes} (h : skipGroups depth groups bytes = .ok rest) :
    rest.length ≤ bytes.length := by
  fun_induction skipGroups depth groups bytes with
  | case1 =>
      cases h
      exact Nat.le_refl _
  | case2 => cases h
  | case3 => rename_i ih; have hrest := ih h; omega
  | case4 => cases h
  | case5 => cases h
  | case6 => cases h
  | case7 => rename_i ih; have hrest := ih h; omega
  | case8 => rename_i ih; have hrest := ih h; omega

theorem skipField_length_le {depth : Nat} {key : Key} {bytes rest : Bytes}
    (h : skipField depth key bytes = .ok rest) :
    rest.length ≤ bytes.length := by
  unfold skipField at h
  split at h
  · cases h
  · split at h
    · exact skipGroups_length_le h
    · exact skipValue_length_le h

end LanRelay.Wire
