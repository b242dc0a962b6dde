import Mathlib
import DepthBridge.Stats.Running

/-!
# Welford's update over the reals

Computed exactly, the running statistics of a list of values are its statistics in two passes,
`RunningStats.twoPass`: the count, the smallest and the largest value, the mean, and the sum of
squared deviations from that mean (`ofList_eq_twoPass`). The mean, the sample variance and the
summary are then those of the values (`ofList_exact`).

One step carries the induction (`twoPass_append_singleton`): a value appended to the list moves
its mean by a share of the value's distance to it, and grows the sum of squared deviations by
the product of the value's distances to the old and the new mean. Both rest on expanding the
squares around an arbitrary centre (`sum_sq_sub_eq`), which turns the two-pass sum into the
sums of the values and of their squares.
-/

namespace DepthBridge

/-- The reals, where the statistics are exact. -/
noncomputable instance StatsScalar.instReal : StatsScalar ℝ where
  ofCount := Nat.cast
  min := Min.min
  max := Max.max
  sqrt := Real.sqrt

namespace StatsScalar

@[simp] theorem ofCount_real (n : ℕ) : (StatsScalar.ofCount n : ℝ) = n := rfl

@[simp] theorem min_real (a b : ℝ) : StatsScalar.min a b = Min.min a b := rfl

@[simp] theorem max_real (a b : ℝ) : StatsScalar.max a b = Max.max a b := rfl

@[simp] theorem sqrt_real (a : ℝ) : StatsScalar.sqrt a = Real.sqrt a := rfl

end StatsScalar

namespace RunningStats

/-! ## Sums of squared deviations -/

/-- The squared deviations from a centre `c` sum to the sum of squares, less twice `c` times the
sum, plus `n c²`. -/
theorem sum_sq_sub_eq (xs : List ℝ) (c : ℝ) :
    (xs.map fun x => (x - c) ^ 2).sum =
      (xs.map fun x => x ^ 2).sum - 2 * c * xs.sum + xs.length * c ^ 2 := by
  induction xs with
  | nil => simp
  | cons y ys ih =>
    simp only [List.map_cons, List.sum_cons, List.length_cons, ih]
    push_cast
    ring

/-! ## The statistics in two passes -/

/-- The statistics of a list in two passes: the mean of the values first, then the sum of their
squared deviations from it. Without values every figure is zero, as in the empty state (a
division by zero gives zero). -/
noncomputable def twoPass (xs : List ℝ) : RunningStats ℝ :=
  let mean := xs.sum / xs.length
  { count := xs.length, mean, m2 := (xs.map fun x => (x - mean) ^ 2).sum,
    min := xs.min?.getD 0, max := xs.max?.getD 0 }

@[simp] theorem twoPass_count (xs : List ℝ) : (twoPass xs).count = xs.length := rfl

@[simp] theorem twoPass_mean (xs : List ℝ) : (twoPass xs).mean = xs.sum / xs.length := rfl

@[simp] theorem twoPass_m2 (xs : List ℝ) :
    (twoPass xs).m2 = (xs.map fun x => (x - xs.sum / xs.length) ^ 2).sum := rfl

@[simp] theorem twoPass_min (xs : List ℝ) : (twoPass xs).min = xs.min?.getD 0 := rfl

@[simp] theorem twoPass_max (xs : List ℝ) : (twoPass xs).max = xs.max?.getD 0 := rfl

/-- The statistics of no values are the empty state. -/
theorem twoPass_nil : twoPass [] = empty := by
  simp [twoPass, empty]

/-- The statistics of one value: its own mean and extremes, no deviation. -/
theorem twoPass_singleton (x : ℝ) : twoPass [x] = ⟨1, x, 0, x, x⟩ := by
  simp [twoPass]

section Append

variable {xs : List ℝ} (x : ℝ)

/-- A value appended to a non-empty list moves its mean by the value's distance to it, shared
among the values of the longer list. -/
theorem mean_append_singleton (hxs : xs ≠ []) :
    (twoPass (xs ++ [x])).mean =
      (twoPass xs).mean + (x - (twoPass xs).mean) / (twoPass (xs ++ [x])).count := by
  have hn : (xs.length : ℝ) ≠ 0 := by simpa using hxs
  simp only [twoPass_mean, twoPass_count, List.sum_append, List.sum_singleton, List.length_append,
    List.length_singleton]
  push_cast
  field_simp
  ring

/-- A value appended to a non-empty list grows the sum of squared deviations by the product of
its distances to the old and the new mean. -/
theorem m2_append_singleton (hxs : xs ≠ []) :
    (twoPass (xs ++ [x])).m2 =
      (twoPass xs).m2 + (x - (twoPass xs).mean) * (x - (twoPass (xs ++ [x])).mean) := by
  have hn : (xs.length : ℝ) ≠ 0 := by simpa using hxs
  have hn1 : (xs.length : ℝ) + 1 ≠ 0 := by positivity
  -- both sums of squares are expanded around their own means
  simp only [twoPass_m2, twoPass_mean, sum_sq_sub_eq, List.map_append, List.sum_append,
    List.map_cons, List.map_nil, List.sum_singleton, List.length_append, List.length_singleton]
  push_cast
  field_simp
  ring

/-- A value appended to a non-empty list is compared with its smallest value. -/
theorem min_append_singleton (hxs : xs ≠ []) :
    (twoPass (xs ++ [x])).min = Min.min (twoPass xs).min x := by
  obtain ⟨y, ys, rfl⟩ := List.exists_cons_of_ne_nil hxs
  simp only [twoPass_min, List.cons_append, List.min?_cons', Option.getD_some, List.foldl_append,
    List.foldl_cons, List.foldl_nil]

/-- A value appended to a non-empty list is compared with its largest value. -/
theorem max_append_singleton (hxs : xs ≠ []) :
    (twoPass (xs ++ [x])).max = Max.max (twoPass xs).max x := by
  obtain ⟨y, ys, rfl⟩ := List.exists_cons_of_ne_nil hxs
  simp only [twoPass_max, List.cons_append, List.max?_cons', Option.getD_some, List.foldl_append,
    List.foldl_cons, List.foldl_nil]

end Append

/-- Welford's step: the statistics of a list with a value appended are those of the list with
the value pushed. -/
theorem twoPass_append_singleton (xs : List ℝ) (x : ℝ) :
    twoPass (xs ++ [x]) = (twoPass xs).push x := by
  rcases eq_or_ne xs [] with rfl | hxs
  case inl =>
    rw [List.nil_append, twoPass_singleton, push_of_count_eq_zero _ _ (twoPass_count [])]
  case inr =>
    have hpos : 0 < (twoPass xs).count := by simpa [List.length_pos_iff] using hxs
    have hcount : (twoPass xs).count + 1 = (twoPass (xs ++ [x])).count := by simp
    rw [push_of_count_pos _ _ hpos, hcount]
    simp only [StatsScalar.ofCount_real, StatsScalar.min_real, StatsScalar.max_real]
    -- every field of the pushed state is now the field of the longer list's statistics
    rw [← mean_append_singleton x hxs, ← m2_append_singleton x hxs,
      ← min_append_singleton x hxs, ← max_append_singleton x hxs]

/-- The running statistics of every list of reals are its statistics in two passes. -/
theorem ofList_eq_twoPass (xs : List ℝ) : ofList xs = twoPass xs := by
  -- the values are pushed from the left, so the induction appends them at the right
  induction xs using List.reverseRecOn with
  | nil => rw [ofList_nil, twoPass_nil]
  | append_singleton xs x ih => rw [ofList_append_singleton, ih, twoPass_append_singleton]

/-! ## What the statistics report -/

/-- The mean of the running statistics is the mean of the values, zero without values. -/
theorem average_ofList (xs : List ℝ) : (ofList xs).average = xs.sum / xs.length := by
  rw [ofList_eq_twoPass, average]
  split
  case isTrue h =>
    -- without values both sides are zero
    rw [List.length_eq_zero_iff.mp h, List.sum_nil, zero_div]
  case isFalse => rfl

/-- The variance of the running statistics is the sum of squared deviations over one less than
the count, from two values on. -/
theorem variance_ofList (xs : List ℝ) :
    (ofList xs).variance = if 2 ≤ xs.length then (twoPass xs).m2 / (xs.length - 1) else 0 := by
  rw [ofList_eq_twoPass, variance, twoPass_count]
  by_cases h : 2 ≤ xs.length
  case pos =>
    rw [if_neg (by omega), if_pos h, StatsScalar.ofCount_real, Nat.cast_sub (by omega),
      Nat.cast_one]
  case neg => rw [if_pos (by omega), if_neg h]

/-- Computed exactly, the running statistics of every list of reals count the values, hold
their smallest and largest (zero without values), their mean, and the sum of their squared
deviations from it; the variance is that sum over one less than the count, from two values on,
and the summary reports these figures with the square root of the variance. -/
theorem ofList_exact (xs : List ℝ) :
    let s : RunningStats ℝ := ofList xs
    let mean : ℝ := xs.sum / xs.length
    let m2 : ℝ := (xs.map fun x => (x - mean) ^ 2).sum
    let variance : ℝ := if 2 ≤ xs.length then m2 / (xs.length - 1) else 0
    s.count = xs.length ∧ s.min = xs.min?.getD 0 ∧ s.max = xs.max?.getD 0 ∧
      s.average = mean ∧ s.m2 = m2 ∧ s.variance = variance ∧
      StatsSummary.ofStats s =
        { count := xs.length, min := xs.min?.getD 0, max := xs.max?.getD 0, mean,
          stdDev := Real.sqrt variance } := by
  intro s mean m2 variance
  have hs : s = twoPass xs := ofList_eq_twoPass xs
  have havg : s.average = mean := average_ofList xs
  have hvar : s.variance = variance := variance_ofList xs
  refine ⟨by rw [hs, twoPass_count], by rw [hs, twoPass_min], by rw [hs, twoPass_max], havg,
    by rw [hs, twoPass_m2], hvar, ?_⟩
  rw [StatsSummary.ofStats, stdDev, havg, hvar, hs, twoPass_count, twoPass_min, twoPass_max,
    StatsScalar.sqrt_real]

/-- Without values the summary reports zeros. -/
example : StatsSummary.ofStats (ofList ([] : List ℝ)) = ⟨0, 0, 0, 0, 0⟩ := by
  simp [StatsSummary.ofStats, stdDev, variance, average, empty]

example : (ofList [1, 2, 3, 4, 5] : RunningStats ℝ).variance = 5 / 2 := by
  norm_num [ofList, push, variance, empty]

end RunningStats
end DepthBridge
