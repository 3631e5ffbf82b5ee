/-
Wall-clock timestamps, the instants they stand for, and their age.

A timestamp counts whole seconds since 1970-01-01T00:00:00Z and a
non-negative fraction in nanoseconds, also before that moment. It is valid in
the years 1 to 9999.
-/
import LanRelay.Fault
import LanRelay.Time.Calendar

namespace LanRelay

def nanosPerSecond : Nat := 1000000000

/-- A length of time, in nanoseconds. -/
abbrev Span := Nat

namespace Span

def ofMillis (n : Nat) : Span := n * 1000000

def ofSeconds (n : Nat) : Span := n * nanosPerSecond

/-- The whole seconds. -/
def seconds (span : Span) : UInt64 := UInt64.ofNat (span / nanosPerSecond)

/-- What is left of whole seconds, in nanoseconds. -/
def fraction (span : Span) : UInt32 := UInt32.ofNat (span % nanosPerSecond)

end Span

/-- A moment, in nanoseconds since 1970-01-01T00:00:00Z. -/
structure Instant where
  nanos : Int
deriving DecidableEq, Repr, Inhabited

namespace Instant

/-- 1970-01-01T00:00:00Z. -/
def epoch : Instant := ⟨0⟩

/-- A clock counts whole seconds in 64 bits. -/
def OnClock (t : Instant) : Prop :=
  Int64.minValue.toInt ≤ t.nanos / nanosPerSecond ∧
    t.nanos / nanosPerSecond ≤ Int64.maxValue.toInt

instance (t : Instant) : Decidable t.OnClock := by
  unfold OnClock; infer_instance

/-- How long it has been since `other`; if that is yet to come, how long it
will be. -/
def since (t other : Instant) : Except Span Span :=
  if other.nanos ≤ t.nanos then .ok (t.nanos - other.nanos).toNat
  else .error (other.nanos - t.nanos).toNat

/-- The moment, if a clock can show it. -/
def shown? (t : Instant) : Option Instant :=
  if t.OnClock then some t else none

def later? (t : Instant) (span : Span) : Option Instant :=
  shown? ⟨t.nanos + span⟩

def earlier? (t : Instant) (span : Span) : Option Instant :=
  shown? ⟨t.nanos - span⟩

end Instant

structure Timestamp where
  seconds : Int64
  nanos : Int32
deriving DecidableEq, Repr, Inhabited

namespace Timestamp

/-- The timestamp of 1970-01-01T00:00:00Z, taken where none is given. -/
def zero : Timestamp := ⟨0, 0⟩

/-- 0001-01-01T00:00:00Z. -/
def minSeconds : Int := -62135596800

/-- 9999-12-31T23:59:59Z. -/
def maxSeconds : Int := 253402300799

/-- Inside the years 1 to 9999, with a fraction below one second. -/
def Valid (ts : Timestamp) : Prop :=
  (minSeconds ≤ ts.seconds.toInt ∧ ts.seconds.toInt ≤ maxSeconds) ∧
    0 ≤ ts.nanos.toInt ∧ ts.nanos.toInt < nanosPerSecond

instance (ts : Timestamp) : Decidable ts.Valid := by
  unfold Valid; infer_instance

def validate (ts : Timestamp) : Except Fault Unit :=
  if ts.Valid then .ok () else .error (.invalidTimestamp ts.seconds ts.nanos)

/-- The timestamp of a moment. Before 1970 the seconds are counted down, and a
fraction is taken from the second below. A clock should show a later moment than
the very first, at which the number of seconds has no negation. -/
def ofInstant (t : Instant) : Timestamp :=
  match t.since .epoch with
  | .ok after => ⟨after.seconds.toInt64, after.fraction.toInt32⟩
  | .error before =>
      let seconds := -before.seconds.toInt64
      let nanos := -before.fraction.toInt32
      if nanos < 0 then ⟨seconds - 1, nanos + Int32.ofNat nanosPerSecond⟩
      else ⟨seconds, nanos⟩

/-- The moment at which the second of a timestamp begins, if a clock can show
it. -/
def second? (ts : Timestamp) : Option Instant :=
  if 0 ≤ ts.seconds then
    Instant.epoch.later? (.ofSeconds ts.seconds.toUInt64.toNat)
  else Instant.epoch.earlier? (.ofSeconds ts.seconds.toInt.natAbs)

/-- The moment that a valid timestamp stands for. -/
def toInstant (ts : Timestamp) : Except Fault Instant := do
  ts.validate
  match ts.second?.bind (·.later? ts.nanos.toInt.toNat) with
  | some t => return t
  | none => throw (.invalidTimestamp ts.seconds ts.nanos)

/-- How long before `now` a timestamp lies; one that lies later has no age. -/
def ageAt (ts : Timestamp) (now : Instant) : Except Fault Span := do
  let then_ ← ts.toInstant
  return (now.since then_).toOption.getD 0

/-- Earlier seconds come first, and then the smaller fraction. -/
def order (x y : Timestamp) : Ordering :=
  (compare x.seconds.toInt y.seconds.toInt).then
    (compare x.nanos.toInt y.nanos.toInt)

/-- Date and time with milliseconds, the rest of the fraction cut off; an
invalid timestamp shows its two numbers. -/
def render (ts : Timestamp) : String :=
  if ts.Valid then
    let secondsPerDay : Int := 86400
    let date := Calendar.dateOfDay (ts.seconds.toInt / secondsPerDay)
    let second := (ts.seconds.toInt % secondsPerDay).toNat
    let two := Calendar.padded 2
    Calendar.padded 4 date.year.toNat ++ "-" ++ two date.month ++ "-" ++
      two date.day ++ "T" ++ two (second / 3600) ++ ":" ++
      two (second / 60 % 60) ++ ":" ++ two (second % 60) ++ "." ++
      Calendar.padded 3 (ts.nanos.toInt.toNat / 1000000) ++ "Z"
  else s!"<invalid {ts.seconds.toInt}s {ts.nanos.toInt}ns>"

end Timestamp

end LanRelay
