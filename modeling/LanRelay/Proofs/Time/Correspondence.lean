/-
Timestamps and the moments that they stand for.

Seconds are counted down before 1970 and a fraction is taken from the second
below, so a timestamp is the quotient and the remainder of its moment by a
second. The valid timestamps correspond to the moments of the years 1 to 9999,
in their order, and an age is the difference of two moments.

Main statement: `timestamps_correspond_to_moments`.
-/
import LanRelay.Proofs.Time.Stamps

namespace LanRelay

/-! The calendar. -/

/-- Years of an era are counted from March. January and February of year 1 of
an era are its days 306 and on, and those of year 400 are its last days. -/
theorem Calendar.year_dateOfDay {day era : Int} {dayOfEra : Nat}
    (hbound : dayOfEra < daysPerEra)
    (hday : day + epochDay = daysPerEra * era + dayOfEra) :
    ∃ year : Nat, (dateOfDay day).year = 400 * era + year ∧
      (1 ≤ year ↔ 306 ≤ dayOfEra) ∧ year ≤ 400 ∧
      (year = 400 ↔ 146037 ≤ dayOfEra) := by
  rw [daysPerEra] at hbound hday
  have hera : (day + epochDay) / daysPerEra = era := by
    rw [daysPerEra]
    omega
  have hrest : ((day + epochDay) % daysPerEra).toNat = dayOfEra := by
    rw [daysPerEra]
    omega
  simp only [dateOfDay, hera, hrest]
  clear hday hera hrest
  generalize hyear : (dayOfEra - dayOfEra / 1460 + dayOfEra / 36524 -
    dayOfEra / 146096) / 365 = year
  generalize hdayOfYear : dayOfEra - (365 * year + year / 4 - year / 100) =
    dayOfYear
  have hle : year ≤ 399 := by omega
  have hzero : year = 0 → dayOfEra ≤ 365 := by omega
  have hfirst : dayOfEra < 306 → year = 0 := by omega
  have hlast : 146037 ≤ dayOfEra → year = 399 := by omega
  generalize hmonth : (5 * dayOfYear + 2) / 153 = month
  split <;> split
  · omega
  · exact ⟨year, by omega, by omega, by omega, by omega⟩
  · exact ⟨year + 1, by omega, by omega, by omega, by omega⟩
  · exact ⟨year, by omega, by omega, by omega, by omega⟩

namespace Instant

/-- The year in which a moment lies. -/
def year (t : Instant) : Int :=
  (Calendar.dateOfDay (t.nanos / nanosPerSecond / 86400)).year

theorem inCalendar_iff {t : Instant} :
    t.InCalendar ↔ 1 ≤ t.year ∧ t.year ≤ 9999 := by
  rw [InCalendar, year, Timestamp.minSeconds, Timestamp.maxSeconds]
  generalize t.nanos / nanosPerSecond = second
  generalize hday : second / 86400 = day
  have hera : (0 : Int) < Calendar.daysPerEra := by decide
  obtain ⟨dayOfEra, hdayOfEra⟩ := Int.eq_ofNat_of_zero_le
    (Int.emod_nonneg (day + Calendar.epochDay) (Int.ne_of_gt hera))
  have hbound := Int.emod_lt_of_pos (day + Calendar.epochDay) hera
  have hsum := Int.mul_ediv_add_emod (day + Calendar.epochDay)
    Calendar.daysPerEra
  rw [hdayOfEra] at hbound hsum
  obtain ⟨year, hyear, hfirst, hle, hlast⟩ :=
    Calendar.year_dateOfDay (Int.ofNat_lt.mp hbound) hsum.symm
  rw [hyear]
  rw [Calendar.epochDay, Calendar.daysPerEra] at hsum ⊢
  omega

end Instant

namespace Timestamp

/-! The order. -/

/-- Moments are compared by their seconds first, and then by what is beyond
them. -/
theorem compare_parts {second second' nanos nanos' : Int}
    (hnanos : 0 ≤ nanos ∧ nanos < nanosPerSecond)
    (hnanos' : 0 ≤ nanos' ∧ nanos' < nanosPerSecond) :
    (compare second second').then (compare nanos nanos') =
      compare (second * nanosPerSecond + nanos)
        (second' * nanosPerSecond + nanos') := by
  have hsecond : (nanosPerSecond : Int) = 1000000000 := rfl
  rw [hsecond] at hnanos hnanos' ⊢
  rcases Int.lt_trichotomy second second' with h | rfl | h
  · rw [Std.compare_eq_lt.mpr h, Ordering.lt_then]
    exact (Std.compare_eq_lt.mpr (by omega)).symm
  · rw [Std.compare_self, Ordering.eq_then]
    simp only [compare, compareOfLessAndEq, Int.add_lt_add_iff_left,
      Int.add_right_inj]
  · rw [Std.compare_eq_gt.mpr h, Ordering.gt_then]
    exact (Std.compare_eq_gt.mpr (by omega)).symm

theorem order_ofInstant {t u : Instant} (ht : t.OnClock) (hu : u.OnClock) :
    order (ofInstant t) (ofInstant u) = compare t.nanos u.nanos := by
  have hsecond : (0 : Int) < nanosPerSecond := by decide
  have hnanos (t : Instant) : 0 ≤ t.nanos % nanosPerSecond ∧
      t.nanos % nanosPerSecond < nanosPerSecond :=
    ⟨Int.emod_nonneg _ (Int.ne_of_gt hsecond), Int.emod_lt_of_pos _ hsecond⟩
  rw [order, seconds_ofInstant ht, seconds_ofInstant hu, nanos_ofInstant,
    nanos_ofInstant, compare_parts (hnanos t) (hnanos u),
    Int.ediv_mul_add_emod, Int.ediv_mul_add_emod]

/-! Valid timestamps. -/

variable {ts ts' : Timestamp} {t u : Instant}

theorem eq_of_parts (hseconds : ts.seconds.toInt = ts'.seconds.toInt)
    (hnanos : ts.nanos.toInt = ts'.nanos.toInt) : ts = ts' := by
  cases ts
  cases ts'
  rw [mk.injEq]
  exact ⟨Int64.toInt_inj.mp hseconds, Int32.toInt_inj.mp hnanos⟩

theorem ofInstant_parts {seconds nanos : Int}
    (hfirst : Int64.minValue.toInt ≤ seconds)
    (hlast : seconds ≤ Int64.maxValue.toInt)
    (hnanos : 0 ≤ nanos ∧ nanos < nanosPerSecond) :
    (ofInstant ⟨seconds * nanosPerSecond + nanos⟩).seconds.toInt = seconds ∧
      (ofInstant ⟨seconds * nanosPerSecond + nanos⟩).nanos.toInt = nanos := by
  have hparts : (seconds * nanosPerSecond + nanos) / nanosPerSecond = seconds ∧
      (seconds * nanosPerSecond + nanos) % nanosPerSecond = nanos := by
    rw [show (nanosPerSecond : Int) = 1000000000 from rfl] at hnanos ⊢
    omega
  have hclock : (⟨seconds * nanosPerSecond + nanos⟩ : Instant).OnClock := by
    rw [Instant.OnClock, hparts.1]
    exact ⟨hfirst, hlast⟩
  rw [seconds_ofInstant hclock, nanos_ofInstant]
  exact hparts

theorem toInstant_eq_ok_iff :
    ts.toInstant = .ok t ↔ ts.Valid ∧
      t = ⟨ts.seconds.toInt * nanosPerSecond + ts.nanos.toInt⟩ := by
  by_cases h : ts.Valid
  · rw [toInstant_of_valid h, Except.ok.injEq, eq_comm]
    exact (and_iff_right h).symm
  · rw [toInstant_of_not_valid h]
    simp [h]

theorem validate_eq_ok_iff : ts.validate = .ok () ↔ ts.Valid := by
  rw [validate]
  split
  · next h => simp [h]
  · next h => simp [h]

theorem validate_of_not_valid (h : ¬ ts.Valid) :
    ts.validate = .error (.invalidTimestamp ts.seconds ts.nanos) :=
  if_neg h

theorem toInstant_ofInstant_of_inCalendar (h : t.InCalendar) :
    (ofInstant t).toInstant = .ok t := by
  have hvalid := toInstant_of_valid (valid_ofInstant h)
  rw [hvalid, toInstant_ofInstant h.onClock hvalid]

theorem ofInstant_of_toInstant (h : ts.toInstant = .ok t) :
    ofInstant t = ts := by
  obtain ⟨hvalid, rfl⟩ := toInstant_eq_ok_iff.mp h
  obtain ⟨hseconds, hnanos⟩ := ofInstant_parts ts.seconds.minValue_le_toInt
    ts.seconds.toInt_le hvalid.2
  exact eq_of_parts hseconds hnanos

theorem order_of_toInstant (h : ts.toInstant = .ok t)
    (h' : ts'.toInstant = .ok u) :
    order ts ts' = compare t.nanos u.nanos := by
  obtain ⟨hvalid, rfl⟩ := toInstant_eq_ok_iff.mp h
  obtain ⟨hvalid', rfl⟩ := toInstant_eq_ok_iff.mp h'
  exact compare_parts hvalid.2 hvalid'.2

theorem ageAt_of_toInstant (h : ts.toInstant = .ok t) (now : Instant) :
    ts.ageAt now = .ok (max 0 (now.nanos - t.nanos)).toNat := by
  obtain ⟨hvalid, rfl⟩ := toInstant_eq_ok_iff.mp h
  have hmax (difference : Int) :
      (max 0 difference).toNat = difference.toNat := by
    omega
  rw [ageAt_of_valid hvalid, hmax]

/-- A timestamp gets no younger. -/
theorem ageAt_mono {now later : Instant} {age age' : Span}
    (hle : now.nanos ≤ later.nanos) (h : ts.ageAt now = .ok age)
    (h' : ts.ageAt later = .ok age') : age ≤ age' := by
  obtain ⟨t, ht, -⟩ := bind_eq_ok_iff.mp h
  rw [ageAt_of_toInstant ht, Except.ok.injEq] at h h'
  rw [← h, ← h']
  exact Int.toNat_le_toNat (by omega)

/-- The timestamp of a clock reading has its whole seconds and the nanoseconds
beyond them, and it stands for that reading in the years 1 to 9999. The
timestamps that pass validation stand for one moment each and are the
timestamps of it; all others are refused in the same words. They are in the
order of their moments, and have the age that lies between these. -/
theorem timestamps_correspond_to_moments :
    (∀ seconds nanos : Int, Int64.minValue.toInt < seconds →
      seconds ≤ Int64.maxValue.toInt → 0 ≤ nanos → nanos < nanosPerSecond →
      (ofInstant ⟨seconds * nanosPerSecond + nanos⟩).seconds.toInt = seconds ∧
        (ofInstant ⟨seconds * nanosPerSecond + nanos⟩).nanos.toInt = nanos) ∧
    (∀ t : Instant, 1 ≤ t.year → t.year ≤ 9999 →
      (ofInstant t).toInstant = .ok t) ∧
    (∀ ts : Timestamp, ts.validate = .ok () →
      ∃ t, ts.toInstant = .ok t ∧ ofInstant t = ts) ∧
    (∀ ts : Timestamp, ts.validate ≠ .ok () →
      ts.validate = .error (.invalidTimestamp ts.seconds ts.nanos) ∧
      ts.toInstant = .error (.invalidTimestamp ts.seconds ts.nanos) ∧
      ∀ now, ts.ageAt now = .error (.invalidTimestamp ts.seconds ts.nanos)) ∧
    (∀ t u : Instant, t.OnClock → u.OnClock →
      order (ofInstant t) (ofInstant u) = compare t.nanos u.nanos) ∧
    (∀ (ts ts' : Timestamp) (t u : Instant), ts.toInstant = .ok t →
      ts'.toInstant = .ok u → order ts ts' = compare t.nanos u.nanos) ∧
    (∀ (ts : Timestamp) (t now : Instant), ts.toInstant = .ok t →
      ts.ageAt now = .ok (max 0 (now.nanos - t.nanos)).toNat) ∧
    (∀ (ts : Timestamp) (now later : Instant) (age age' : Span),
      now.nanos ≤ later.nanos → ts.ageAt now = .ok age →
      ts.ageAt later = .ok age' → age ≤ age') := by
  refine ⟨?_, ?_, ?_, ?_, ?_, ?_, ?_, ?_⟩
  · intro seconds nanos hfirst hlast hnonneg hbound
    exact ofInstant_parts (Int.le_of_lt hfirst) hlast ⟨hnonneg, hbound⟩
  · intro t hfirst hlast
    exact toInstant_ofInstant_of_inCalendar
      (Instant.inCalendar_iff.mpr ⟨hfirst, hlast⟩)
  · intro ts haccepted
    have htoInstant := toInstant_of_valid (validate_eq_ok_iff.mp haccepted)
    exact ⟨_, htoInstant, ofInstant_of_toInstant htoInstant⟩
  · intro ts hrefused
    have hinvalid : ¬ ts.Valid := fun h => hrefused (validate_eq_ok_iff.mpr h)
    exact ⟨validate_of_not_valid hinvalid, toInstant_of_not_valid hinvalid,
      ageAt_of_not_valid hinvalid⟩
  · intro t u ht hu
    exact order_ofInstant ht hu
  · intro ts ts' t u h h'
    exact order_of_toInstant h h'
  · intro ts t now h
    exact ageAt_of_toInstant h now
  · intro ts now later age age' hle h h'
    exact ageAt_mono hle h h'

/-- A second and a half before 1970, and a second and a half before the year
1. -/
theorem timestamps_correspond_to_moments_before_epochs :
    ofInstant ⟨-1500000000⟩ = ⟨-2, 500000000⟩ ∧
      toInstant ⟨-2, 500000000⟩ = .ok ⟨-1500000000⟩ ∧
      order ⟨-2, 500000000⟩ ⟨0, 0⟩ = .lt ∧
      ageAt ⟨-2, 500000000⟩ ⟨-500000000⟩ = .ok 1000000000 ∧
      toInstant ⟨-62135596802, 500000000⟩ =
        .error (.invalidTimestamp (-62135596802) 500000000) := by
  obtain ⟨hparts, hstands, -, hrefused, -, horder, hage, -⟩ :=
    timestamps_correspond_to_moments
  have htimestamp : ofInstant ⟨-1500000000⟩ = ⟨-2, 500000000⟩ := by
    obtain ⟨hseconds, hnanos⟩ :=
      hparts (-2) 500000000 (by decide) (by decide) (by decide) (by decide)
    exact eq_of_parts hseconds hnanos
  have hmoment : toInstant ⟨-2, 500000000⟩ = .ok ⟨-1500000000⟩ := by
    rw [← htimestamp]
    exact hstands ⟨-1500000000⟩ (by decide) (by decide)
  have hepoch : toInstant ⟨0, 0⟩ = .ok ⟨0⟩ := hstands ⟨0⟩ (by decide) (by decide)
  have hinvalid : (⟨-62135596802, 500000000⟩ : Timestamp).validate ≠ .ok () := by
    rw [Ne, validate_eq_ok_iff]
    decide
  exact ⟨htimestamp, hmoment, horder _ _ _ _ hmoment hepoch,
    hage _ _ _ hmoment, (hrefused _ hinvalid).2.1⟩

end Timestamp

end LanRelay
