/-
Messages as tables of fields.

A schema names the fields of a message and says how each one changes the
message read so far. Fields come in any order; a scalar that comes again
replaces the earlier one, an inner message that comes again is read on top of
the earlier one, and an unknown field is skipped. An inner message is read
from everything that follows its length, and must then end where the length
says.
-/
import LanRelay.Wire.Key

namespace LanRelay.Wire

/-- Why a message cannot be read, and the fields around the place, the
innermost one first. -/
structure Failure where
  path : List String
  cause : Cause
deriving DecidableEq, Repr

namespace Failure

def ofCause (cause : Cause) : Failure := ⟨[], cause⟩

/-- The failure seen from the field that it happened in. -/
def inside (message field : String) (failure : Failure) : Failure :=
  { failure with path := failure.path ++ [message ++ "." ++ field] }

def message (failure : Failure) : String :=
  "failed to decode Protobuf message: " ++
    String.join (failure.path.map (· ++ ": ")) ++ failure.cause.message

end Failure

/-- A field of a message `M`: what reading its value does to the message. -/
structure Field (M : Type) where
  name : String
  merge : (depth : Nat) → Shape → M → Bytes → Except Failure (M × Bytes)
  merge_length_le : ∀ {depth : Nat} {shape : Shape} {m m' : M}
    {bytes rest : Bytes}, merge depth shape m bytes = .ok (m', rest) →
      rest.length ≤ bytes.length

/-- A message type: its name and its numbered fields. -/
structure Schema (M : Type) where
  name : String
  fields : List (Nat × Field M)

namespace Schema

variable {M : Type}

/-- Read one field with its key. -/
def mergeField (schema : Schema M) (depth : Nat) (m : M) (bytes : Bytes) :
    Except Failure (M × Bytes) :=
  match readKey bytes with
  | .error cause => .error (.ofCause cause)
  | .ok (key, rest) =>
      match schema.fields.lookup key.number with
      | some field =>
          (field.merge depth key.shape m rest).mapError
            (·.inside schema.name field.name)
      | none =>
          match skipField depth key rest with
          | .error cause => .error (.ofCause cause)
          | .ok rest => .ok (m, rest)

theorem mergeField_length_lt {schema : Schema M} {depth : Nat} {m m' : M}
    {bytes rest : Bytes}
    (h : schema.mergeField depth m bytes = .ok (m', rest)) :
    rest.length < bytes.length := by
  unfold mergeField at h
  split at h
  · cases h
  · rename_i hkey
    have hread := readKey_length_lt hkey
    split at h
    · rename_i field _
      cases hmerge : field.merge depth _ m _ with
      | error failure =>
          rw [hmerge] at h
          cases h
      | ok read =>
          rw [hmerge] at h
          cases h
          have hvalue := field.merge_length_le hmerge
          omega
    · split at h
      · cases h
      · rename_i hskip
        cases h
        have hvalue := skipField_length_le hskip
        omega

/-- Read fields until `limit` bytes are left. -/
def mergeUntil (schema : Schema M) (depth limit : Nat) (m : M)
    (bytes : Bytes) : Except Failure (M × Bytes) :=
  if limit < bytes.length then
    match hfield : schema.mergeField depth m bytes with
    | .error failure => .error failure
    | .ok (m', rest) =>
        have _hless := mergeField_length_lt hfield
        mergeUntil schema depth limit m' rest
  else if bytes.length = limit then .ok (m, bytes)
  else .error (.ofCause .lengthExceeded)
termination_by bytes.length

theorem mergeUntil_length_le {schema : Schema M} {depth limit : Nat}
    {m m' : M} {bytes rest : Bytes}
    (h : schema.mergeUntil depth limit m bytes = .ok (m', rest)) :
    rest.length ≤ bytes.length := by
  fun_induction mergeUntil schema depth limit m bytes with
  | case1 => cases h
  | case2 =>
      rename_i ih
      have hrest := ih h
      omega
  | case3 =>
      cases h
      exact Nat.le_refl _
  | case4 => cases h

/-- How deep messages and groups may be nested. -/
def maxDepth : Nat := 100

/-- Read a whole message on top of `blank`. -/
def read (schema : Schema M) (blank : M) (bytes : Bytes) : Except Failure M :=
  (schema.mergeUntil maxDepth 0 blank bytes).map (·.1)

end Schema

namespace Field

variable {M N : Type}

/-- Read a value of the expected shape. -/
def expect (expected actual : Shape) (read : Bytes → Except Cause (N × Bytes))
    (bytes : Bytes) : Except Failure (N × Bytes) :=
  if actual = expected then (read bytes).mapError .ofCause
  else .error (.ofCause (.unexpectedShape actual expected))

theorem expect_length_le {expected actual : Shape}
    {read : Bytes → Except Cause (N × Bytes)} {bytes rest : Bytes} {n : N}
    (hread : ∀ {n rest}, read bytes = .ok (n, rest) →
      rest.length ≤ bytes.length)
    (h : expect expected actual read bytes = .ok (n, rest)) :
    rest.length ≤ bytes.length := by
  unfold expect at h
  split at h
  · cases hok : read bytes with
    | error cause =>
        rw [hok] at h
        cases h
    | ok value =>
        rw [hok] at h
        cases h
        exact hread hok
  · cases h

/-- A field whose value is read at once and put into the message. -/
def scalar (name : String) (shape : Shape)
    (read : Bytes → Except Cause (N × Bytes))
    (hread : ∀ {bytes rest : Bytes} {n : N}, read bytes = .ok (n, rest) →
      rest.length ≤ bytes.length)
    (put : N → M → M) : Field M where
  name := name
  merge _ actual m bytes :=
    (expect shape actual read bytes).map fun (n, rest) => (put n m, rest)
  merge_length_le h := by
    obtain ⟨⟨n, rest⟩, hexpect, heq⟩ := eq_ok_of_map_eq_ok h
    cases heq
    exact expect_length_le hread hexpect

/-- Read a text that is preceded by its length. -/
def readText (bytes : Bytes) : Except Cause (String × Bytes) :=
  match readDelimited bytes with
  | .error cause => .error cause
  | .ok (value, rest) =>
      match value.toText? with
      | none => .error .notUtf8
      | some text => .ok (text, rest)

theorem readText_length_le {bytes rest : Bytes} {text : String}
    (h : readText bytes = .ok (text, rest)) : rest.length ≤ bytes.length := by
  unfold readText at h
  split at h
  · cases h
  · rename_i hread
    split at h
    · cases h
    · cases h
      exact readDelimited_length_le hread

/-- A number field; `put` is given the number below 2^64. -/
def number (name : String) (put : Nat → M → M) : Field M :=
  scalar name .varint readNumber
    (fun h => Nat.le_of_lt (readNumber_length_lt h)) put

def text (name : String) (put : String → M → M) : Field M :=
  scalar name .delimited readText readText_length_le put

def bytes (name : String) (put : Bytes → M → M) : Field M :=
  scalar name .delimited readDelimited readDelimited_length_le put

/-- An inner message. It is read on top of what `get` finds. -/
def inner (name : String) (schema : Schema N) (get : M → N)
    (put : N → M → M) : Field M where
  name := name
  merge depth shape m bytes :=
    if shape ≠ .delimited then
      .error (.ofCause (.unexpectedShape shape .delimited))
    else if depth = 0 then .error (.ofCause .tooDeep)
    else
      match readNumber bytes with
      | .error cause => .error (.ofCause cause)
      | .ok (length, rest) =>
          if rest.length < length then .error (.ofCause .underflow)
          else
            (schema.mergeUntil (depth - 1) (rest.length - length) (get m)
              rest).map fun (n, rest) => (put n m, rest)
  merge_length_le h := by
    split at h
    · cases h
    · split at h
      · cases h
      · split at h
        · cases h
        · rename_i hlength
          split at h
          · cases h
          · obtain ⟨⟨n, rest⟩, hmerge, heq⟩ := eq_ok_of_map_eq_ok h
            cases heq
            have hfirst := readNumber_length_lt hlength
            have hinner := Schema.mergeUntil_length_le hmerge
            omega

end Field

/-- The key and the bytes of a field. -/
def writeKey (number : Nat) (shape : Shape) : Bytes :=
  writeVarint (8 * number + shape.code)

/-- A number field; zero is left out. -/
def writeNumber (number n : Nat) : Bytes :=
  if n = 0 then [] else writeKey number .varint ++ writeVarint n

/-- A length-delimited field, written also when it is empty. -/
def writeDelimited (number : Nat) (value : Bytes) : Bytes :=
  writeKey number .delimited ++ writeVarint value.length ++ value

/-- A text or byte field; an empty one is left out. -/
def writeBytes (number : Nat) (value : Bytes) : Bytes :=
  if value.isEmpty then [] else writeDelimited number value

end LanRelay.Wire
