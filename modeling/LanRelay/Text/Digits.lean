/-
Numerals: runs of ASCII digits in a given radix, and the numbers they stand
for.
-/
namespace LanRelay.Text

/-- The value of an ASCII digit or letter below `radix`; letters of both cases
stand for ten and more. -/
def digit? (radix : Nat) (c : Char) : Option Nat :=
  let value :=
    if '0' ≤ c ∧ c ≤ '9' then c.toNat - 48
    else if 'a' ≤ c ∧ c ≤ 'z' then c.toNat - 87
    else if 'A' ≤ c ∧ c ≤ 'Z' then c.toNat - 55
    else radix
  if value < radix then some value else none

/-- An ASCII decimal digit. -/
def isDigit (c : Char) : Bool := '0' ≤ c && c ≤ '9'

/-- The leading digits of a text, and what follows them. -/
def leadingDigits (radix : Nat) : List Char → List Nat × List Char
  | [] => ([], [])
  | c :: cs =>
      match digit? radix c with
      | none => ([], c :: cs)
      | some d =>
          let (digits, rest) := leadingDigits radix cs
          (d :: digits, rest)

/-- The number with the given digits, highest first. -/
def ofDigits (radix : Nat) (digits : List Nat) : Nat :=
  digits.foldl (fun n d => radix * n + d) 0

/-- The number that a text spells with digits alone; there must be one. -/
def natural? (radix : Nat) (cs : List Char) : Option Nat :=
  match leadingDigits radix cs with
  | (d :: digits, []) => some (ofDigits radix (d :: digits))
  | _ => none

/-- A decimal number below `bound`, with an optional plus sign. -/
def unsigned? (bound : Nat) (text : String) : Option Nat :=
  let digits :=
    match text.toList with
    | '+' :: cs => cs
    | cs => cs
  (natural? 10 digits).filter (· < bound)

/-- A byte spelled in decimal. -/
def byte? (text : String) : Option UInt8 :=
  (unsigned? 256 text).map UInt8.ofNat

/-- A 32-bit word spelled in decimal. -/
def word32? (text : String) : Option UInt32 :=
  (unsigned? 4294967296 text).map UInt32.ofNat

/-- A 64-bit word spelled in decimal. -/
def word64? (text : String) : Option UInt64 :=
  (unsigned? 18446744073709551616 text).map UInt64.ofNat

/-- The lower-case hexadecimal numeral of a number. -/
def hexNumeral (n : Nat) : String := String.ofList (Nat.toDigits 16 n)

/-- `text` with `pad` characters put in front of it up to `width`. -/
def padStart (pad : Char) (width : Nat) (text : String) : String :=
  String.ofList (List.replicate (width - text.length) pad) ++ text

end LanRelay.Text
