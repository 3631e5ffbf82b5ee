/-
What the running statistics come to over exact numbers.

The reader keeps five numbers. They are the count, the extremes and the mean of
all that it has read, and the sum of the squared deviations from that mean. So
the order in which the numbers came does not show in them.

Main statements: `Running.Describes.push` for one number, `describes_ofList` for
a sequence, and `statistics_are_of_all_numbers`.
-/
import LanRelay.Stats.Running
import Mathlib.Algebra.BigOperators.Group.List.Basic
import Mathlib.Algebra.Order.BigOperators.Group.List
import Mathlib.Algebra.Order.Field.Rat
import Mathlib.Order.Bounds.Basic
import Mathlib.Tactic.FieldSimp
import Mathlib.Tactic.Linarith
import Mathlib.Tactic.LinearCombination
import Mathlib.Tactic.NormNum
import Mathlib.Tactic.Positivity
import Mathlib.Tactic.Ring

namespace LanRelay.Stats

/-- Exact numbers. -/
instance : Arithmetic ℚ where
  zero := 0
  ofCount n := n
  lesser := min
  greater := max

/-! Means and deviations of a list. -/

def meanOf (xs : List ℚ) : ℚ := xs.sum / xs.length

/-- The sum of the squared deviations from a number. -/
def squaresAbout (center : ℚ) (xs : List ℚ) : ℚ :=
  (xs.map fun x => (x - center) ^ 2).sum

theorem length_mul_meanOf (xs : List ℚ) : xs.length * meanOf xs = xs.sum := by
  cases xs with
  | nil => simp [meanOf]
  | cons x xs =>
      rw [meanOf]
      field_simp

theorem squaresAbout_concat (center : ℚ) (xs : List ℚ) (x : ℚ) :
    squaresAbout center (xs ++ [x]) =
      squaresAbout center xs + (x - center) ^ 2 := by
  simp [squaresAbout]

theorem squaresAbout_nonneg (center : ℚ) (xs : List ℚ) :
    0 ≤ squaresAbout center xs := by
  refine List.sum_nonneg fun square hsquare => ?_
  obtain ⟨x, -, rfl⟩ := List.mem_map.mp hsquare
  positivity

theorem squaresAbout_shift (center other : ℚ) (xs : List ℚ) :
    squaresAbout center xs = squaresAbout other xs +
      2 * (other - center) * (xs.sum - xs.length * other) +
      xs.length * (other - center) ^ 2 := by
  induction xs with
  | nil => simp [squaresAbout]
  | cons x xs ih =>
      simp only [squaresAbout, List.map_cons, List.sum_cons, List.length_cons,
        Nat.cast_succ] at ih ⊢
      linear_combination ih

/-- About any other number the sum is greater, by the squared distance of that
number from the mean for each entry. -/
theorem squaresAbout_eq (center : ℚ) (xs : List ℚ) :
    squaresAbout center xs = squaresAbout (meanOf xs) xs +
      xs.length * (meanOf xs - center) ^ 2 := by
  rw [squaresAbout_shift center (meanOf xs), length_mul_meanOf]
  ring

theorem meanOf_concat (xs : List ℚ) (x : ℚ) :
    meanOf (xs ++ [x]) = meanOf xs + (x - meanOf xs) / (xs.length + 1) := by
  have hlength : (xs.length + 1 : ℚ) ≠ 0 := by positivity
  rw [meanOf, List.sum_append, List.sum_singleton, List.length_append,
    List.length_singleton, Nat.cast_add, Nat.cast_one, ← length_mul_meanOf xs]
  field_simp
  ring

/-- The product of the deviations from the mean before and the mean with the
number is what the number adds. -/
theorem squaresAbout_meanOf_concat (xs : List ℚ) (x : ℚ) :
    squaresAbout (meanOf (xs ++ [x])) (xs ++ [x]) =
      squaresAbout (meanOf xs) xs +
        (x - meanOf xs) * (x - meanOf (xs ++ [x])) := by
  have htotal := length_mul_meanOf (xs ++ [x])
  rw [List.length_append, List.length_singleton, Nat.cast_add, Nat.cast_one,
    List.sum_append, List.sum_singleton, ← length_mul_meanOf xs] at htotal
  rw [squaresAbout_concat, squaresAbout_eq (meanOf (xs ++ [x])) xs]
  linear_combination (meanOf (xs ++ [x]) - meanOf xs) * htotal

namespace Running

/-- The statistics are those of a list. -/
structure Describes (stats : Running ℚ) (xs : List ℚ) : Prop where
  count : stats.count = xs.length
  mean : stats.mean = meanOf xs
  squares : stats.squares = squaresAbout (meanOf xs) xs
  min : IsLeast {x | x ∈ xs} stats.min
  max : IsGreatest {x | x ∈ xs} stats.max

variable {stats stats' : Running ℚ} {xs ys : List ℚ}

theorem describes_push_empty (x : ℚ) : (empty.push x).Describes [x] where
  count := rfl
  mean := by simp [push, empty, meanOf]
  squares := by simp [push, empty, meanOf, squaresAbout, Arithmetic.zero]
  min := by simp [push, empty]
  max := by simp [push, empty]

theorem push_of_ne (hcount : stats.count ≠ 0) (x : ℚ) :
    let mean := stats.mean + (x - stats.mean) / (stats.count + 1)
    stats.push x = {
      count := stats.count + 1
      mean
      squares := stats.squares + (x - stats.mean) * (x - mean)
      min := Min.min stats.min x
      max := Max.max stats.max x } := by
  intro mean
  have hmean : stats.mean + (x - stats.mean) / ((stats.count + 1 : Nat) : ℚ) =
      mean := by rw [Nat.cast_succ]
  rw [← hmean]
  exact if_neg hcount

/-- One more number. -/
theorem Describes.push (h : stats.Describes xs) (x : ℚ) :
    (stats.push x).Describes (xs ++ [x]) := by
  have hcount : stats.count ≠ 0 := by
    rw [h.count]
    exact List.length_pos_of_mem h.min.1 |>.ne'
  have hmembers : {y | y ∈ xs ++ [x]} = insert x {y | y ∈ xs} := by
    ext y
    simp [or_comm]
  have hmean : stats.mean + (x - stats.mean) / (stats.count + 1) =
      meanOf (xs ++ [x]) := by
    rw [meanOf_concat, h.mean, h.count]
  rw [push_of_ne hcount, hmean]
  constructor
  · simp [h.count]
  · rfl
  · rw [squaresAbout_meanOf_concat, h.squares, h.mean]
  · rw [hmembers, min_comm]
    exact h.min.insert x
  · rw [hmembers, max_comm]
    exact h.max.insert x

/-- A sequence of numbers. -/
theorem describes_ofList (h : xs ≠ []) : (ofList xs).Describes xs := by
  induction xs using List.reverseRecOn with
  | nil => exact absurd rfl h
  | append_singleton xs x ih =>
      rw [ofList, List.foldl_append]
      by_cases hfirst : xs = []
      · subst hfirst
        exact describes_push_empty x
      · exact (ih hfirst).push x

theorem Describes.perm (h : stats.Describes xs) (hperm : xs.Perm ys) :
    stats.Describes ys := by
  have hmembers : {x | x ∈ ys} = {x | x ∈ xs} :=
    Set.ext fun x => hperm.symm.mem_iff
  have hmean : meanOf ys = meanOf xs := by
    rw [meanOf, meanOf, hperm.sum_eq, hperm.length_eq]
  constructor
  · rw [h.count, hperm.length_eq]
  · rw [h.mean, hmean]
  · rw [h.squares, hmean, squaresAbout, squaresAbout, (hperm.map _).sum_eq]
  · rw [hmembers]
    exact h.min
  · rw [hmembers]
    exact h.max

/-- A list has no other statistics. -/
theorem Describes.unique (h : stats.Describes xs) (h' : stats'.Describes xs) :
    stats = stats' := by
  have hmin := h.min.unique h'.min
  have hmax := h.max.unique h'.max
  obtain ⟨hcount, hmean, hsquares, -, -⟩ := h
  obtain ⟨hcount', hmean', hsquares', -, -⟩ := h'
  cases stats
  cases stats'
  simp_all

namespace Describes

theorem length_pos (h : stats.Describes xs) : 0 < xs.length :=
  List.length_pos_of_mem h.min.1

theorem min_le_mean (h : stats.Describes xs) : stats.min ≤ stats.mean := by
  have hlength : (0 : ℚ) < xs.length := Nat.cast_pos.mpr h.length_pos
  have hsum : xs.length • stats.min ≤ xs.sum :=
    List.card_nsmul_le_sum xs stats.min fun x hx => h.min.2 hx
  rw [nsmul_eq_mul] at hsum
  rw [h.mean, meanOf, le_div_iff₀ hlength]
  linarith

theorem mean_le_max (h : stats.Describes xs) : stats.mean ≤ stats.max := by
  have hlength : (0 : ℚ) < xs.length := Nat.cast_pos.mpr h.length_pos
  have hsum : xs.sum ≤ xs.length • stats.max :=
    List.sum_le_card_nsmul xs stats.max fun x hx => h.max.2 hx
  rw [nsmul_eq_mul] at hsum
  rw [h.mean, meanOf, div_le_iff₀ hlength]
  linarith

theorem variance_of_one (h : stats.Describes xs) (hone : xs.length = 1) :
    stats.variance = 0 := by
  rw [variance, if_pos (by rw [h.count, hone]; decide)]
  rfl

theorem variance_of_more (h : stats.Describes xs) (hmore : 2 ≤ xs.length) :
    stats.variance = squaresAbout (meanOf xs) xs / (xs.length - 1) := by
  have hcount : ¬ stats.count < 2 := by rw [h.count]; omega
  have hpred : ((stats.count - 1 : Nat) : ℚ) = xs.length - 1 := by
    rw [h.count, Nat.cast_pred h.length_pos]
  rw [variance, if_neg hcount, h.squares, ← hpred]
  rfl

theorem variance_nonneg (h : stats.Describes xs) : 0 ≤ stats.variance := by
  rcases Nat.lt_or_ge xs.length 2 with hless | hmore
  · have hone : xs.length = 1 := Nat.le_antisymm (Nat.le_of_lt_succ hless)
      h.length_pos
    exact (h.variance_of_one hone).ge
  · have hlength : (1 : ℚ) ≤ xs.length := Nat.one_le_cast.mpr h.length_pos
    rw [h.variance_of_more hmore]
    exact div_nonneg (squaresAbout_nonneg _ _) (by linarith)

end Describes

/-- However numbers are read one by one, the statistics are those of all of
them at once: their count, the least and the greatest, the sum divided by the
count, and the sum of the squared deviations from that mean divided by one less
than the count. So there is a root of the variance, the mean lies between the
extremes, and the order of the numbers makes no difference. -/
theorem statistics_are_of_all_numbers (h : xs ≠ []) :
    (ofList xs).count = xs.length ∧
    IsLeast {x | x ∈ xs} (ofList xs).min ∧
    IsGreatest {x | x ∈ xs} (ofList xs).max ∧
    (ofList xs).mean = xs.sum / xs.length ∧
    (xs.length = 1 → (ofList xs).variance = 0) ∧
    (2 ≤ xs.length → (ofList xs).variance =
      (xs.map fun x => (x - xs.sum / xs.length) ^ 2).sum /
        (xs.length - 1)) ∧
    0 ≤ (ofList xs).variance ∧
    (ofList xs).min ≤ (ofList xs).mean ∧
    (ofList xs).mean ≤ (ofList xs).max ∧
    ∀ ys, xs.Perm ys → ofList ys = ofList xs := by
  have hstats := describes_ofList h
  refine ⟨hstats.count, hstats.min, hstats.max, hstats.mean,
    hstats.variance_of_one, hstats.variance_of_more, hstats.variance_nonneg,
    hstats.min_le_mean, hstats.mean_le_max, fun ys hperm => ?_⟩
  have hys : ys ≠ [] := by
    rintro rfl
    exact h hperm.eq_nil
  exact (describes_ofList hys).unique (hstats.perm hperm)

/-- Four numbers, the greatest first and one of them twice. -/
theorem statistics_are_of_all_numbers_of_sample :
    ([5, -1, 1, -1] : List ℚ) ≠ [] ∧
      (ofList ([5, -1, 1, -1] : List ℚ)).mean = 1 ∧
      (ofList ([5, -1, 1, -1] : List ℚ)).variance = 8 ∧
      ofList ([-1, 5, 1, -1] : List ℚ) = ofList [5, -1, 1, -1] := by
  have hne : ([5, -1, 1, -1] : List ℚ) ≠ [] := List.cons_ne_nil _ _
  obtain ⟨-, -, -, hmean, -, hvariance, -, -, -, hperm⟩ :=
    statistics_are_of_all_numbers hne
  refine ⟨hne, ?_, ?_, hperm _ (.swap ..)⟩
  · rw [hmean]
    norm_num
  · rw [hvariance (by decide)]
    norm_num

end Running

end LanRelay.Stats
