import EventGraph.Plane.Basic
import Mathlib.Algebra.Order.Field.Rat
import Mathlib.Tactic.FieldSimp
import Mathlib.Tactic.Linarith
import Mathlib.Tactic.LinearCombination
import Mathlib.Tactic.Ring

/-!
# Rational scalars

Rationals are all numbers, so the comparisons of scalars are those of the order.
-/

namespace EventGraph

attribute [ext] Point

namespace Scalar

theorem zero_rat : (0.0 : Rat) = 0 := by norm_num

theorem one_rat : (1.0 : Rat) = 1 := by norm_num

theorem half_rat : (0.5 : Rat) = 1 / 2 := by norm_num

theorem isNumber_rat (a : Rat) : isNumber a = true := beq_self_eq_true a

theorem min_rat (a b : Rat) : Scalar.min a b = Min.min a b := by
  rw [Scalar.min, isNumber_rat, min_def]
  grind

theorem max_rat (a b : Rat) : Scalar.max a b = Max.max a b := by
  rw [Scalar.max, isNumber_rat, max_def]
  grind

theorem clamp_rat {low high : Rat} (h : low ≤ high) (a : Rat) :
    clamp a low high = Max.max low (Min.min a high) := by
  rw [clamp, max_def, min_def]
  grind

end Scalar

theorem Point.zero_rat : (Point.zero : Point Rat) = ⟨0, 0⟩ :=
  Point.ext Scalar.zero_rat Scalar.zero_rat

end EventGraph
