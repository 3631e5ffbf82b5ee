/-
Trees of values, as a file or a message spells them.

A tree keeps what its reader saw: fields in their order, keys that stand
twice, and texts that are no Unicode text. What a known type makes of a tree
is decided elsewhere.
-/
import LanRelay.Bytes

namespace LanRelay

/-- A quoted text. Escapes may name surrogates, which are no characters, so it
is kept as code points. It is `plain` if every control character in it is
escaped. -/
structure Literal where
  points : List Nat
  plain : Bool
deriving DecidableEq, Repr

namespace Literal

def ofText (text : String) : Literal :=
  ⟨text.toList.map Char.toNat, true⟩

/-- The character with the given code point. -/
def char? (point : Nat) : Option Char :=
  if h : point.isValidChar then some (.ofNatAux point h) else none

/-- The text of a plain literal without surrogates. -/
def text? (literal : Literal) : Option String :=
  if literal.plain then (literal.points.mapM char?).map String.ofList
  else none

/-- The bytes of a code point in the manner of UTF-8, also for surrogates. -/
def bytesOfPoint (point : Nat) : Bytes :=
  let tail (shift : Nat) := UInt8.ofNat (128 + point / shift % 64)
  if point < 0x80 then [UInt8.ofNat point]
  else if point < 0x800 then [UInt8.ofNat (192 + point / 64), tail 1]
  else if point < 0x10000 then
    [UInt8.ofNat (224 + point / 4096), tail 64, tail 1]
  else [UInt8.ofNat (240 + point / 262144), tail 4096, tail 64, tail 1]

def bytes (literal : Literal) : Bytes := literal.points.flatMap bytesOfPoint

theorem char?_toNat (c : Char) : char? c.toNat = some c := by
  have h : c.toNat.isValidChar := c.valid
  rw [char?, dif_pos h]
  rfl

theorem mapM_char?_toNat (cs : List Char) :
    (cs.map Char.toNat).mapM char? = some cs := by
  induction cs with
  | nil => rfl
  | cons c cs ih => simp [List.mapM_cons, char?_toNat, ih]

theorem text?_ofText (text : String) : (ofText text).text? = some text := by
  simp only [text?, ofText, if_true, mapM_char?_toNat, Option.map_some,
    String.ofList_toList]

end Literal

inductive Document where
  | null
  | bool (value : Bool)
  /-- An integer, spelled without fraction and exponent. -/
  | whole (value : Int)
  /-- A number of any other kind. -/
  | fractional
  /-- A number beyond the range of the format. -/
  | tooLarge
  | text (literal : Literal)
  /-- A date, a time of day, or both. -/
  | date
  | list (items : List Document)
  | record (fields : List (Literal × Document))

namespace Document

def ofText (text : String) : Document := .text (.ofText text)

/-- A record of fields with known names. -/
def ofFields (fields : List (String × Document)) : Document :=
  .record (fields.map fun (name, value) => (.ofText name, value))

theorem ofFields_eq (fields : List (String × Document)) :
    ofFields fields =
      .record (fields.map fun field => (.ofText field.1, field.2)) := rfl

mutual

/-- A tree can be passed over: its texts are plain, and its numbers are in
range. -/
def isSound : Document → Bool
  | text literal => literal.plain
  | tooLarge => false
  | list items => areSound items
  | record fields => areSoundFields fields
  | _ => true

def areSound : List Document → Bool
  | [] => true
  | item :: items => item.isSound && areSound items

def areSoundFields : List (Literal × Document) → Bool
  | [] => true
  | (key, value) :: fields =>
      key.plain && value.isSound && areSoundFields fields

end

/-- The text of a tree that is one. -/
def text? : Document → Option String
  | text literal => literal.text?
  | _ => none

def bool? : Document → Option Bool
  | bool value => some value
  | _ => none

/-- An integer between two bounds, both included. -/
def integer? (least greatest : Int) : Document → Option Int
  | whole value => if least ≤ value ∧ value ≤ greatest then some value else none
  | _ => none

/-- A natural number below a bound. -/
def natural? (bound : Nat) : Document → Option Nat
  | whole value =>
      if 0 ≤ value ∧ value < bound then some value.toNat else none
  | _ => none

/-- Bytes, as a list of numbers or as a text. -/
def bytes? : Document → Option Bytes
  | text literal => some literal.bytes
  | list items => items.mapM fun item => (item.natural? 256).map UInt8.ofNat
  | _ => none

/-- Bytes as a list of numbers. -/
def ofBytes (bytes : Bytes) : Document :=
  .list (bytes.map fun b => .whole b.toNat)

/-- The points in which file formats differ when a tree is read as a known
type. -/
structure Dialect where
  /-- A list that stands for a record may be longer than the record. -/
  allowsSurplus : Bool
  /-- What may stand beside the name of a variant without contents. -/
  isEmpty : Document → Bool

/-- One of several names, bare or as the only field of a record. -/
def variant? (dialect : Dialect) (names : List String) :
    Document → Option String
  | text literal => literal.text?.filter (· ∈ names)
  | record [(key, value)] =>
      if dialect.isEmpty value then key.text?.filter (· ∈ names) else none
  | _ => none

/-- The known fields that a tree gives. -/
structure Fields where
  given : List (String × Document)
  /-- The tree is a list, which gives the fields in their order. -/
  listed : Bool

/-- Read a tree as a record with the given field names. Each may be given
once. Unknown fields are passed over; superfluous items are not even looked
at. A date is a record without known fields. -/
def fields? (dialect : Dialect) (names : List String) :
    Document → Option Fields
  | list items =>
      if dialect.allowsSurplus ∨ items.length ≤ names.length then
        some ⟨names.zip items, true⟩
      else none
  | record fields => do
      let fields : List (String × Document) ←
        fields.mapM fun (key, value) => key.text?.map (·, value)
      let (known, unknown) := fields.partition (·.1 ∈ names)
      if (known.map Prod.fst).Nodup ∧ unknown.all (·.2.isSound) then
        some ⟨known, false⟩
      else none
  | date => some ⟨[], false⟩
  | _ => none

namespace Fields

variable {α : Type}

/-- A field that must be given. -/
def need (fields : Fields) (name : String) (read : Document → Option α) :
    Option α :=
  (fields.given.lookup name).bind read

/-- A field that has a value when it is not given. -/
def orElse (fields : Fields) (name : String) (read : Document → Option α)
    (default : α) : Option α :=
  match fields.given.lookup name with
  | none => some default
  | some value => read value

/-- A field that may be null, or left out where fields have names. -/
def optional (fields : Fields) (name : String) (read : Document → Option α) :
    Option (Option α) :=
  match fields.given.lookup name with
  | none => if fields.listed then none else some none
  | some .null => some none
  | some value => (read value).map some

end Fields

end Document

/-- A type whose values are written as trees, and read from them. -/
class AsDocument (α : Type) where
  ofDocument? : Document.Dialect → Document → Option α
  toDocument : α → Document

end LanRelay
