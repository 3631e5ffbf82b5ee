/-
Numbers, dates and times of a TOML document.

An integer lies between -2^127 and 2^128 - 1, and any other number rounds to a
finite 64-bit floating-point number; what does not is too large.
-/
import LanRelay.Document.Toml.Text
import LanRelay.Time.Calendar

namespace LanRelay.Toml

open LanRelay.Text

/-- The digits after the first one, each with at most one underscore in front
of it. -/
def moreDigits (radix : Nat) : List Char → List Nat × List Char
  | [] => ([], [])
  | '_' :: c :: cs =>
      match digit? radix c with
      | some d =>
          let (digits, rest) := moreDigits radix cs
          (d :: digits, rest)
      | none => ([], '_' :: c :: cs)
  | c :: cs =>
      match digit? radix c with
      | some d =>
          let (digits, rest) := moreDigits radix cs
          (d :: digits, rest)
      | none => ([], c :: cs)

/-- Read digits; there is at least one, and an underscore stands only between
two of them. -/
def readDigits (radix : Nat) : List Char → Option (List Nat × List Char)
  | [] => none
  | c :: cs =>
      (digit? radix c).map fun d =>
        let (digits, rest) := moreDigits radix cs
        (d :: digits, rest)

/-- An integer, unless it is too large. -/
def whole (n : Int) : Document :=
  if -(Nat.pow 2 127 : Int) ≤ n ∧ n < Nat.pow 2 128 then .whole n else .tooLarge

/-- Half a unit above the greatest finite floating-point number; from here on
a number rounds to infinity. -/
def floatBound : Nat := Nat.pow 2 1024 - Nat.pow 2 970

/-- The number of digits of `floatBound`. -/
def floatBoundDigits : Nat := 309

/-- The number `digits · 10 ^ (exponent - places)` rounds to a finite
floating-point number. The number of its digits decides unless it is that of
the bound itself. -/
def isFiniteFloat (digits : List Nat) (places : Nat) (exponent : Int) :
    Bool :=
  let digits := digits.dropWhile (· == 0)
  let size := digits.length + exponent - places
  if digits.isEmpty ∨ size < floatBoundDigits then true
  else if (floatBoundDigits : Int) < size then false
  else
    let shift := exponent - places
    let n := ofDigits 10 digits
    if 0 ≤ shift then n * Nat.pow 10 shift.toNat < floatBound
    else n < floatBound * Nat.pow 10 (-shift).toNat

/-- Read the fraction of a number, if there is one. -/
def readFraction : List Char → Option (Option (List Nat) × List Char)
  | '.' :: cs =>
      (readDigits 10 cs).map fun (digits, rest) => (some digits, rest)
  | cs => some (none, cs)

/-- Read the exponent of a number, if there is one. -/
def readExponent : List Char → Option (Option Int × List Char)
  | c :: cs =>
      if c = 'e' ∨ c = 'E' then
        let (negative, cs) :=
          match cs with
          | '+' :: cs => (false, cs)
          | '-' :: cs => (true, cs)
          | cs => (false, cs)
        (readDigits 10 cs).map fun (digits, rest) =>
          let n : Int := ofDigits 10 digits
          (some (if negative then -n else n), rest)
      else some (none, c :: cs)
  | [] => some (none, [])

/-- Read a decimal number from behind its sign. Its integer part has no leading
zero. -/
def readDecimal (negative : Bool) (cs : List Char) :
    Option (Document × List Char) := do
  let (digits, cs) ← readDigits 10 cs
  if digits.length ≠ 1 ∧ digits.head? = some 0 then failure
  let (fraction, cs) ← readFraction cs
  let (exponent, cs) ← readExponent cs
  if fraction.isNone ∧ exponent.isNone then
    let n : Int := ofDigits 10 digits
    return (whole (if negative then -n else n), cs)
  let places := fraction.getD []
  if isFiniteFloat (digits ++ places) places.length (exponent.getD 0) then
    return (.fractional, cs)
  return (.tooLarge, cs)

/-- Read a number from behind its sign. -/
def readUnsigned (negative : Bool) : List Char → Option (Document × List Char)
  | 'i' :: 'n' :: 'f' :: cs => some (.fractional, cs)
  | 'n' :: 'a' :: 'n' :: cs => some (.fractional, cs)
  | cs => readDecimal negative cs

/-- Read digits in a radix other than ten. -/
def readRadix (radix : Nat) (cs : List Char) :
    Option (Document × List Char) :=
  (readDigits radix cs).map fun (digits, rest) =>
    (whole (ofDigits radix digits), rest)

def readNumber : List Char → Option (Document × List Char)
  | '0' :: 'x' :: cs => readRadix 16 cs
  | '0' :: 'o' :: cs => readRadix 8 cs
  | '0' :: 'b' :: cs => readRadix 2 cs
  | '+' :: cs => readUnsigned false cs
  | '-' :: cs => readUnsigned true cs
  | cs => readUnsigned false cs

/-- Read two decimal digits. -/
def readTwo : List Char → Option (Nat × List Char)
  | a :: b :: cs => do
      return (ofDigits 10 [← digit? 10 a, ← digit? 10 b], cs)
  | _ => none

def skip (c : Char) : List Char → Option (List Char)
  | [] => none
  | d :: cs => if c = d then some cs else none

/-- Skip a date; it must be one of the calendar. -/
def skipDate (cs : List Char) : Option (List Char) := do
  let (century, cs) ← readTwo cs
  let (year, cs) ← readTwo cs
  let (month, cs) ← readTwo (← skip '-' cs)
  let (day, cs) ← readTwo (← skip '-' cs)
  if 1 ≤ day ∧ day ≤ Calendar.daysInMonth (100 * century + year) month then
    return cs
  failure

/-- Skip the fraction of a second, if there is one. -/
def skipSubsecond : List Char → Option (List Char)
  | '.' :: cs =>
      match leadingDigits 10 cs with
      | ([], _) => none
      | (_, rest) => some rest
  | cs => some cs

/-- Skip a time of day, with or without seconds. A minute may have a leap
second. -/
def skipTime (cs : List Char) : Option (List Char) := do
  let (hour, cs) ← readTwo cs
  let (minute, cs) ← readTwo (← skip ':' cs)
  if 23 < hour ∨ 59 < minute then failure
  match cs with
  | ':' :: cs =>
      let (second, cs) ← readTwo cs
      if 60 < second then failure
      skipSubsecond cs
  | cs => return cs

/-- Skip a distance from universal time, if there is one. -/
def skipOffset : List Char → Option (List Char)
  | [] => some []
  | c :: cs =>
      if c = 'Z' ∨ c = 'z' then some cs
      else if c = '+' ∨ c = '-' then do
        let (hour, cs) ← readTwo cs
        let (minute, cs) ← readTwo (← skip ':' cs)
        if 23 < hour ∨ 59 < minute then failure
        return cs
      else some (c :: cs)

/-- Skip a date and the time of day that may follow it. -/
def skipDateTime (cs : List Char) : Option (List Char) := do
  match ← skipDate cs with
  | 'T' :: cs | 't' :: cs => skipOffset (← skipTime cs)
  | ' ' :: c :: cs =>
      if isDigit c then skipOffset (← skipTime (c :: cs))
      else return ' ' :: c :: cs
  | cs => return cs

/-- Read a number, a date or a time of day. A date begins with four digits and
a hyphen, a time of day with two digits and a colon. -/
def readNumberOrDate (cs : List Char) : Option (Document × List Char) :=
  let (digits, rest) := leadingDigits 10 cs
  if digits.length = 4 ∧ rest.head? = some '-' then
    (skipDateTime cs).map (.date, ·)
  else if digits.length = 2 ∧ rest.head? = some ':' then
    (skipTime cs).map (.date, ·)
  else readNumber cs

end LanRelay.Toml
