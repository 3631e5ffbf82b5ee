/-
Decimal numerals with a fixed number of places.

The exact value of a floating-point number is rounded to the nearest multiple
of the last place; a tie goes to the even one. Main statement: the rounded
quotient is at most half a unit away from the quotient.
-/
import LanRelay.Text.Digits

namespace LanRelay.Text

/-- The natural number nearest to a quotient; of two equally near ones the even
one. -/
def roundDiv (num den : Nat) : Nat :=
  let quotient := num / den
  let rest := num % den
  if 2 * rest < den ∨ (2 * rest = den ∧ quotient % 2 = 0) then quotient
  else quotient + 1

theorem roundDiv_near (num : Nat) {den : Nat} (h : 0 < den) :
    2 * num ≤ 2 * (roundDiv num den * den) + den ∧
      2 * (roundDiv num den * den) ≤ 2 * num + den := by
  have hsplit := Nat.div_add_mod num den
  have hrest := Nat.mod_lt num h
  simp only [roundDiv]
  split
  · rename_i hlow
    rw [Nat.mul_comm (num / den) den]
    omega
  · rename_i hhigh
    rw [Nat.add_mul, Nat.one_mul, Nat.mul_comm (num / den) den]
    omega

/-- A number in decimal places: `n` counts units of the last place. -/
def placesText (places n : Nat) : String :=
  let digits := padStart '0' (places + 1) (toString n)
  let point := digits.length - places
  let chars := digits.toList
  if places = 0 then digits
  else String.ofList (chars.take point ++ '.' :: chars.drop point)

/-- The sign, the significand and the exponent of a finite floating-point
number, which is the significand times that power of two. -/
structure FloatParts where
  negative : Bool
  significand : Nat
  exponent : Int

/-- What the bits of a floating-point number say; nothing unless it is
finite. -/
def floatParts? (x : Float) : Option FloatParts :=
  let bits := x.toBits.toNat
  let negative := bits / Nat.pow 2 63 % 2 == 1
  let exponent : Nat := bits / Nat.pow 2 52 % 2048
  let fraction := bits % Nat.pow 2 52
  if exponent = 2047 then none
  else if exponent = 0 then some ⟨negative, fraction, -1074⟩
  else some ⟨negative, fraction + Nat.pow 2 52, (exponent : Int) - 1075⟩

/-- A floating-point number with a fixed number of places. The sign of zero is
kept. -/
def fixedPoint (places : Nat) (x : Float) : String :=
  match floatParts? x with
  | none =>
      if x.isNaN then "NaN" else if x < 0 then "-inf" else "inf"
  | some ⟨negative, significand, exponent⟩ =>
      let scaled := significand * Nat.pow 10 places
      let units :=
        if 0 ≤ exponent then scaled * Nat.pow 2 exponent.toNat
        else roundDiv scaled (Nat.pow 2 (-exponent).toNat)
      (if negative then "-" else "") ++ placesText places units

end LanRelay.Text
