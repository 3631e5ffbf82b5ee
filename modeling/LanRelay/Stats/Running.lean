/-
Statistics of a sequence of numbers, kept while it is read.

Mean and sum of squared deviations are updated with each number, without
keeping the numbers. The update is the same in every arithmetic; here it is
used with floating-point numbers.
-/
import LanRelay.Text.FixedPoint

namespace LanRelay.Stats

/-- What the update needs of the numbers. -/
class Arithmetic (α : Type) extends Add α, Sub α, Mul α, Div α where
  zero : α
  ofCount : Nat → α
  lesser : α → α → α
  greater : α → α → α

/-- Of a number and something that is none the number counts; of equal ones the
first. -/
instance : Arithmetic Float where
  zero := 0
  ofCount n := (UInt64.ofNat n).toFloat
  lesser x y := if x.isNaN then y else if y < x then y else x
  greater x y := if x.isNaN then y else if x < y then y else x

/-- Count, extremes, mean and sum of squared deviations of what has been
read. -/
structure Running (α : Type) where
  count : Nat
  mean : α
  squares : α
  min : α
  max : α

namespace Running

variable {α : Type} [Arithmetic α]

open Arithmetic

def empty : Running α := ⟨0, zero, zero, zero, zero⟩

/-- Read a number. The deviation is taken once from the mean before it and once
from the mean with it. -/
def push (stats : Running α) (x : α) : Running α :=
  if stats.count = 0 then ⟨1, x, zero, x, x⟩
  else
    let count := stats.count + 1
    let deviation := x - stats.mean
    let mean := stats.mean + deviation / ofCount count
    { count, mean
      squares := stats.squares + deviation * (x - mean)
      min := lesser stats.min x
      max := greater stats.max x }

def ofList (xs : List α) : Running α := xs.foldl push empty

/-- The variance of a sample; zero for fewer than two numbers. -/
def variance (stats : Running α) : α :=
  if stats.count < 2 then zero
  else stats.squares / ofCount (stats.count - 1)

end Running

/-- What is reported of a sequence. -/
structure Summary where
  count : Nat
  min : Float
  max : Float
  mean : Float
  deviation : Float

namespace Summary

def ofRunning (stats : Running Float) : Summary where
  count := stats.count
  min := stats.min
  max := stats.max
  mean := stats.mean
  deviation := stats.variance.sqrt

def render (summary : Summary) : String :=
  let one := Text.fixedPoint 1
  if summary.count = 0 then "N/A"
  else
    "min=" ++ one summary.min ++ ", max=" ++ one summary.max ++ ", mean=" ++
      one summary.mean ++ ", std=" ++ one summary.deviation ++
      s!" (n={summary.count})"

end Summary

end LanRelay.Stats
