/-
Timestamps that are made of clock readings, and how old they are.

Main statements: `Timestamp.ofInstant_eq` and `Timestamp.toInstant_of_valid`,
by which counting seconds up and down is division with a remainder;
`Timestamp.age_of_ofInstant`, and `Timestamp.ageAt_ofInstant` by which a clock
reading of the years 1 to 9999 always has an age.
-/
import LanRelay.Proofs.Outcome
import LanRelay.Time.Timestamp

namespace LanRelay

/-- A reading in the years 1 to 9999. -/
def Instant.InCalendar (t : Instant) : Prop :=
  Timestamp.minSeconds ≤ t.nanos / nanosPerSecond ∧
    t.nanos / nanosPerSecond ≤ Timestamp.maxSeconds

instance (t : Instant) : Decidable t.InCalendar := by
  unfold Instant.InCalendar; infer_instance

theorem Instant.InCalendar.onClock {t : Instant} (h : t.InCalendar) :
    t.OnClock := by
  have hleast : Int64.minValue.toInt ≤ Timestamp.minSeconds := by decide
  have hgreatest : Timestamp.maxSeconds ≤ Int64.maxValue.toInt := by decide
  exact ⟨Int.le_trans hleast h.1, Int.le_trans h.2 hgreatest⟩

theorem Instant.since_of_le {t other : Instant} (h : other.nanos ≤ t.nanos) :
    t.since other = .ok (t.nanos - other.nanos).toNat :=
  if_pos h

theorem Instant.since_of_lt {t other : Instant} (h : t.nanos < other.nanos) :
    t.since other = .error (other.nanos - t.nanos).toNat :=
  if_neg (Int.not_le.mpr h)

theorem Instant.getD_since (t other : Instant) :
    (t.since other).toOption.getD 0 = (t.nanos - other.nanos).toNat := by
  rcases Int.lt_or_le t.nanos other.nanos with h | h
  · have hzero : (t.nanos - other.nanos).toNat = 0 :=
      Int.toNat_of_nonpos (by omega)
    rw [since_of_lt h, hzero]
    rfl
  · rw [since_of_le h]
    rfl

/-- A clock shows each moment of a second that it counts. -/
theorem Instant.shown?_eq_some {seconds nanos : Int}
    (hfirst : Int64.minValue.toInt ≤ seconds)
    (hlast : seconds ≤ Int64.maxValue.toInt)
    (hnanos : 0 ≤ nanos ∧ nanos < nanosPerSecond) :
    shown? ⟨seconds * nanosPerSecond + nanos⟩ =
      some ⟨seconds * nanosPerSecond + nanos⟩ := by
  have hsecond : (seconds * nanosPerSecond + nanos) / nanosPerSecond =
      seconds := by
    rw [show (nanosPerSecond : Int) = 1000000000 from rfl] at hnanos ⊢
    omega
  refine if_pos ⟨?_, ?_⟩
  · exact hsecond.symm ▸ hfirst
  · exact hsecond.symm ▸ hlast

namespace Timestamp

theorem ofInstant_of_nonneg {t : Instant} (h : 0 ≤ t.nanos) :
    ofInstant t = ⟨Int64.ofInt (t.nanos / nanosPerSecond),
      Int32.ofInt (t.nanos % nanosPerSecond)⟩ := by
  obtain ⟨n, hn⟩ := Int.eq_ofNat_of_zero_le h
  have hepoch : Instant.epoch.nanos ≤ t.nanos := h
  have hafter : t.since .epoch = .ok n := by
    rw [Instant.since_of_le hepoch, hn]
    rfl
  rw [ofInstant, hafter, hn]
  simp only [Span.seconds, Span.fraction, UInt64.toInt64_ofNat',
    UInt32.toInt32_ofNat', ← Int64.ofInt_eq_ofNat, ← Int32.ofInt_eq_ofNat,
    Int.natCast_ediv, Int.natCast_emod]

/-- Counting down and taking the fraction from the second below is division
that rounds down. -/
theorem ofInstant_of_neg {t : Instant} (h : t.nanos < 0) :
    ofInstant t = ⟨Int64.ofInt (t.nanos / nanosPerSecond),
      Int32.ofInt (t.nanos % nanosPerSecond)⟩ := by
  obtain ⟨n, hn⟩ := Int.eq_ofNat_of_zero_le (show 0 ≤ -t.nanos by omega)
  have hepoch : t.nanos < Instant.epoch.nanos := h
  have hbefore : t.since .epoch = .error n := by
    rw [Instant.since_of_lt hepoch, Instant.epoch, Int.zero_sub, hn]
    rfl
  have hsecond : (nanosPerSecond : Int) = 1000000000 := rfl
  have hfraction : (Int32.ofInt (-(n % nanosPerSecond : Int))).toInt =
      -(n % nanosPerSecond : Int) := by
    rw [hsecond, Int32.toInt_ofInt_of_le] <;> omega
  rw [ofInstant, hbefore]
  simp only [Span.seconds, Span.fraction, UInt64.toInt64_ofNat',
    UInt32.toInt32_ofNat', ← Int64.ofInt_eq_ofNat, ← Int32.ofInt_eq_ofNat,
    Int.natCast_ediv, Int.natCast_emod, ← Int64.ofInt_neg, ← Int32.ofInt_neg,
    Int32.lt_iff_toInt_lt, hfraction, Int32.toInt_zero]
  rw [hsecond] at hfraction ⊢
  split
  · next hborrow =>
      have hseconds : t.nanos / 1000000000 = -(n / 1000000000 : Int) - 1 := by
        omega
      have hnanos : t.nanos % 1000000000 =
          -(n % 1000000000 : Int) + 1000000000 := by
        omega
      rw [hseconds, hnanos, Int64.ofInt_sub, Int32.ofInt_add]
      rfl
  · next hwhole =>
      have hseconds : t.nanos / 1000000000 = -(n / 1000000000 : Int) := by
        omega
      have hnanos : t.nanos % 1000000000 = -(n % 1000000000 : Int) := by
        omega
      rw [hseconds, hnanos]

theorem ofInstant_eq (t : Instant) :
    ofInstant t = ⟨Int64.ofInt (t.nanos / nanosPerSecond),
      Int32.ofInt (t.nanos % nanosPerSecond)⟩ :=
  (Int.lt_or_le t.nanos 0).elim ofInstant_of_neg ofInstant_of_nonneg

theorem seconds_ofInstant {t : Instant} (h : t.OnClock) :
    (ofInstant t).seconds.toInt = t.nanos / nanosPerSecond := by
  rw [ofInstant_eq, Int64.toInt_ofInt_of_le]
  · exact h.1
  · have hmax := h.2
    rw [show Int64.maxValue.toInt = 2 ^ 63 - 1 from rfl] at hmax
    omega

theorem nanos_ofInstant (t : Instant) :
    (ofInstant t).nanos.toInt = t.nanos % nanosPerSecond := by
  have hsecond : (nanosPerSecond : Int) = 1000000000 := rfl
  rw [ofInstant_eq, hsecond, Int32.toInt_ofInt_of_le] <;> omega

theorem toInstant_of_not_valid {ts : Timestamp} (h : ¬ ts.Valid) :
    ts.toInstant = .error (.invalidTimestamp ts.seconds ts.nanos) := by
  rw [toInstant, validate, if_neg h]
  rfl

/-- A clock can show the beginning of every second that 64 bits count. -/
theorem second?_eq_some (ts : Timestamp) :
    ts.second? = some ⟨ts.seconds.toInt * nanosPerSecond⟩ := by
  have hzero : 0 ≤ (0 : Int) ∧ (0 : Int) < nanosPerSecond := by decide
  have hshown := Instant.shown?_eq_some ts.seconds.minValue_le_toInt
    ts.seconds.toInt_le hzero
  rw [Int.add_zero] at hshown
  rw [second?]
  split
  · next hnonneg =>
      have hseconds : (ts.seconds.toUInt64.toNat : Int) =
          ts.seconds.toInt := by
        rw [Int64.toNat_toUInt64_of_le hnonneg,
          Int64.cast_toNatClampNeg _ hnonneg]
      rw [Instant.later?, Instant.epoch, Span.ofSeconds, Int.zero_add,
        Int.natCast_mul, hseconds]
      exact hshown
  · next hnegative =>
      have hseconds : -(ts.seconds.toInt.natAbs : Int) = ts.seconds.toInt := by
        rw [Int64.le_iff_toInt_le, Int64.toInt_zero] at hnegative
        omega
      rw [Instant.earlier?, Instant.epoch, Span.ofSeconds, Int.zero_sub,
        Int.natCast_mul, ← Int.neg_mul, hseconds]
      exact hshown

/-- A clock can show every moment that a valid timestamp stands for. -/
theorem toInstant_of_valid {ts : Timestamp} (h : ts.Valid) :
    ts.toInstant =
      .ok ⟨ts.seconds.toInt * nanosPerSecond + ts.nanos.toInt⟩ := by
  have hshown := Instant.shown?_eq_some ts.seconds.minValue_le_toInt
    ts.seconds.toInt_le h.2
  rw [← Int.toNat_of_nonneg h.2.1] at hshown ⊢
  rw [toInstant, validate, if_pos h, second?_eq_some, Option.bind_some,
    Instant.later?, hshown]
  rfl

/-- The timestamp of a clock reading, if it is valid, stands for that
reading. -/
theorem toInstant_ofInstant {t then_ : Instant} (h : t.OnClock)
    (hthen : (ofInstant t).toInstant = .ok then_) : then_ = t := by
  by_cases hvalid : (ofInstant t).Valid
  · rw [toInstant_of_valid hvalid] at hthen
    cases hthen
    rw [seconds_ofInstant h, nanos_ofInstant, Int.mul_comm,
      Int.mul_ediv_add_emod]
  · rw [toInstant_of_not_valid hvalid] at hthen
    cases hthen

theorem age_of_ofInstant {t now : Instant} {age : Span} (h : t.OnClock)
    (hage : (ofInstant t).ageAt now = .ok age) :
    age = (now.nanos - t.nanos).toNat := by
  obtain ⟨then_, hthen, hage⟩ := bind_eq_ok_iff.mp hage
  cases hage
  rw [toInstant_ofInstant h hthen, Instant.getD_since]

theorem valid_ofInstant {t : Instant} (h : t.InCalendar) :
    (ofInstant t).Valid := by
  have hsecond : (nanosPerSecond : Int) = 1000000000 := rfl
  rw [Valid, seconds_ofInstant h.onClock, nanos_ofInstant, hsecond]
  rw [Instant.InCalendar, hsecond] at h
  refine ⟨h, ?_, ?_⟩ <;> omega

theorem ageAt_of_valid {ts : Timestamp} (h : ts.Valid) (now : Instant) :
    ts.ageAt now = .ok (now.nanos -
      (ts.seconds.toInt * nanosPerSecond + ts.nanos.toInt)).toNat := by
  rw [ageAt, toInstant_of_valid h, ← Instant.getD_since now
    ⟨ts.seconds.toInt * nanosPerSecond + ts.nanos.toInt⟩]
  rfl

theorem ageAt_of_not_valid {ts : Timestamp} (h : ¬ ts.Valid) (now : Instant) :
    ts.ageAt now = .error (.invalidTimestamp ts.seconds ts.nanos) := by
  rw [ageAt, toInstant_of_not_valid h]
  rfl

theorem ageAt_ofInstant {t : Instant} (h : t.InCalendar) (now : Instant) :
    (ofInstant t).ageAt now = .ok (now.nanos - t.nanos).toNat := by
  have hage := ageAt_of_valid (valid_ofInstant h) now
  rw [hage, age_of_ofInstant h.onClock hage]

end Timestamp

end LanRelay
