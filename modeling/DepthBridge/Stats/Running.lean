import DepthBridge.Decimal.Layout

/-!
# Running statistics

Count, extremes, mean and variance of a stream of values in one pass, by Welford's update:
after the first value the mean moves by `δ / n` and the sum of squared deviations grows by
`δ · δ'`, where `δ` and `δ'` are the value's distances to the old and the new mean. The
variance is the sample variance (divided by `n - 1`), zero below two values.

The update is written over any `StatsScalar`. The bridge computes it in double precision, where
a count is rounded to the nearest double and the extremes ignore NaN, as IEEE `minNum` and
`maxNum` do; over exact arithmetic it gives the mean and the sum of squared deviations of the
values seen so far.
-/

namespace DepthBridge

/-- The scalars statistics are computed in, beside their arithmetic: the value of a count, the
smaller and the larger of two values, and the square root. -/
class StatsScalar (α : Type) where
  ofCount : Nat → α
  min : α → α → α
  max : α → α → α
  sqrt : α → α

/-- The smaller of two doubles, a NaN giving way to the other. -/
def minNum (a b : Float) : Float := if a.isNaN then b else if b.isNaN then a else if b < a then b else a

/-- The larger of two doubles, a NaN giving way to the other. -/
def maxNum (a b : Float) : Float := if a.isNaN then b else if b.isNaN then a else if b > a then b else a

/-- Doubles: a count is rounded to the nearest double, and the extremes ignore NaN. -/
instance StatsScalar.instFloat : StatsScalar Float where
  ofCount := Nat.toFloat
  min := minNum
  max := maxNum
  sqrt := Float.sqrt

/-- The running state. -/
structure RunningStats (α : Type) where
  count : Nat
  mean : α
  m2 : α
  min : α
  max : α
  deriving Inhabited

namespace RunningStats

variable {α : Type} [Add α] [Sub α] [Mul α] [Div α] [OfNat α 0] [StatsScalar α]

/-- The state before any value. -/
def empty : RunningStats α := ⟨0, 0, 0, 0, 0⟩

/-- Takes one value. -/
def push (s : RunningStats α) (x : α) : RunningStats α :=
  let n := s.count + 1
  if n = 1 then { count := 1, mean := x, m2 := 0, min := x, max := x }
  else
    let delta := x - s.mean
    let mean := s.mean + delta / StatsScalar.ofCount n
    { count := n, mean, m2 := s.m2 + delta * (x - mean), min := StatsScalar.min s.min x,
      max := StatsScalar.max s.max x }

/-- The statistics of a list of values. -/
def ofList (xs : List α) : RunningStats α := xs.foldl push empty

/-- The mean; zero without values. -/
def average (s : RunningStats α) : α := if s.count = 0 then 0 else s.mean

/-- The sample variance; zero below two values. -/
def variance (s : RunningStats α) : α :=
  if s.count < 2 then 0 else s.m2 / StatsScalar.ofCount (s.count - 1)

/-- The sample standard deviation. -/
def stdDev (s : RunningStats α) : α := StatsScalar.sqrt s.variance

/-- The first value starts the statistics afresh. -/
theorem push_of_count_eq_zero (s : RunningStats α) (x : α) (h : s.count = 0) :
    s.push x = ⟨1, x, 0, x, x⟩ := by
  simp [push, h]

/-- Every later value moves the mean by its share of the distance to it, and grows the sum of
squared deviations by the product of its distances to the old and the new mean. -/
theorem push_of_count_pos (s : RunningStats α) (x : α) (h : 0 < s.count) :
    s.push x =
      let mean := s.mean + (x - s.mean) / StatsScalar.ofCount (s.count + 1)
      ⟨s.count + 1, mean, s.m2 + (x - s.mean) * (x - mean), StatsScalar.min s.min x,
        StatsScalar.max s.max x⟩ := by
  simp only [push]
  rw [if_neg (by omega)]

@[simp] theorem ofList_nil : ofList ([] : List α) = empty := rfl

/-- The values are taken one after another. -/
theorem ofList_append_singleton (xs : List α) (x : α) :
    ofList (xs ++ [x]) = (ofList xs).push x := by
  simp only [ofList, List.foldl_append, List.foldl_cons, List.foldl_nil]

end RunningStats

/-- A summary of running statistics. -/
structure StatsSummary (α : Type) where
  count : Nat
  min : α
  max : α
  mean : α
  stdDev : α
  deriving Inhabited

namespace StatsSummary

/-- The summary of the running state. -/
def ofStats {α : Type} [Add α] [Sub α] [Mul α] [Div α] [OfNat α 0] [StatsScalar α]
    (s : RunningStats α) : StatsSummary α :=
  { count := s.count, min := s.min, max := s.max, mean := s.average, stdDev := s.stdDev }

/-- The summary as text: `N/A` without values, else the four figures with three places and
the count. -/
def text (s : StatsSummary Float) : String :=
  if s.count = 0 then "N/A"
  else
    let f := Decimal.fixed 3
    "min=" ++ f s.min ++ ", max=" ++ f s.max ++ ", mean=" ++ f s.mean ++ ", std=" ++ f s.stdDev
      ++ " (n=" ++ toString s.count ++ ")"

end StatsSummary
end DepthBridge
