import EventGraph.Plane.Curve
import EventGraph.Proofs.Plane.Rational
import Mathlib.Data.List.Chain
import Mathlib.Order.Monotone.Basic

/-!
# The distance to a polyline

The nearest point of a segment is found by projecting onto its line and clamping to its ends, the
distance to a polyline as the least over the segments. In exact scalars that is the least distance
to any point of any segment. Rationals have no roots, so a length is told by some function of its
square that does not decrease, such as the square itself.
-/

namespace EventGraph

/-- How lengths of rational vectors are told from their squares. -/
class RationalMetric where
  lengthOfSquare : Rat → Rat
  monotone : Monotone lengthOfSquare
  /-- Stands for the distance of what is not there; no rational is beyond all others. -/
  infinity : Rat

instance [RationalMetric] : Metric Rat where
  toScalar := inferInstance
  length x y := RationalMetric.lengthOfSquare (x * x + y * y)
  infinity := RationalMetric.infinity

/-- Squared lengths. -/
@[reducible] def RationalMetric.squared : RationalMetric := ⟨id, monotone_id, 0⟩

/-! ### Clamping -/

theorem Scalar.clamp_cases {low high : Rat} (h : low ≤ high) (a : Rat) :
    clamp a low high = low ∧ a ≤ low ∨ clamp a low high = high ∧ high ≤ a ∨
      clamp a low high = a ∧ low ≤ a ∧ a ≤ high := by
  rw [clamp]
  grind

/-- Nothing in the range is on the same side of the clamped scalar as the scalar itself. -/
theorem Scalar.mul_clamp_nonpos {low high t : Rat} (hlow : low ≤ t) (hhigh : t ≤ high) (a : Rat) :
    (t - clamp a low high) * (a - clamp a low high) ≤ 0 := by
  rcases clamp_cases (hlow.trans hhigh) a with ⟨hclamp, ha⟩ | ⟨hclamp, ha⟩ | ⟨hclamp, -⟩
  · rw [hclamp]
    exact mul_nonpos_of_nonneg_of_nonpos (sub_nonneg.mpr hlow) (sub_nonpos.mpr ha)
  · rw [hclamp]
    exact mul_nonpos_of_nonpos_of_nonneg (sub_nonpos.mpr hhigh) (sub_nonneg.mpr ha)
  · rw [hclamp, sub_self, mul_zero]

namespace Point

/-! ### One segment -/

/-- The points of the segment between two points, both included. -/
def OnSegment (a b q : Point Rat) : Prop := ∃ t : Rat, 0 ≤ t ∧ t ≤ 1 ∧ q = a + (b - a) * t

/-- A segment that is a single point, or long enough to have a direction. -/
def IsSegment (a b : Point Rat) : Prop := a = b ∨ Scalar.epsilon < (b - a).dot (b - a)

instance : DecidableRel IsSegment := fun _ _ => inferInstanceAs (Decidable (_ ∨ _))

/-- How the squared distance changes along a line from one point of it to another. -/
theorem dot_sub_along (p a v : Point Rat) (t s : Rat) :
    (p - (a + v * t)).dot (p - (a + v * t)) = (p - (a + v * s)).dot (p - (a + v * s)) +
      v.dot v * ((t - s) * (t - s)) - 2 * ((t - s) * ((p - a).dot v - v.dot v * s)) := by
  simp only [dot, sub_x, sub_y, add_x, add_y, mul_x, mul_y]
  ring

/-- The clamped projection is nearest. -/
theorem dot_sub_clamp_le {p a v : Point Rat} (hv : 0 < v.dot v) {t : Rat} (hlow : 0 ≤ t)
    (hhigh : t ≤ 1) :
    let s := Scalar.clamp ((p - a).dot v / v.dot v) 0 1
    (p - (a + v * s)).dot (p - (a + v * s)) ≤ (p - (a + v * t)).dot (p - (a + v * t)) := by
  intro s
  have hturn : (t - s) * ((p - a).dot v / v.dot v - s) ≤ 0 :=
    Scalar.mul_clamp_nonpos hlow hhigh _
  have hprojection : v.dot v * ((p - a).dot v / v.dot v) = (p - a).dot v :=
    mul_div_cancel₀ _ hv.ne'
  have hcross : (t - s) * ((p - a).dot v - v.dot v * s) =
      v.dot v * ((t - s) * ((p - a).dot v / v.dot v - s)) := by
    linear_combination (s - t) * hprojection
  -- Away from the clamped projection the square grows, and the turn only adds to it.
  have hsquare : 0 ≤ v.dot v * ((t - s) * (t - s)) := mul_nonneg hv.le (mul_self_nonneg _)
  have hnonpos := mul_nonpos_of_nonneg_of_nonpos hv.le hturn
  rw [dot_sub_along p a v t s, hcross]
  linarith

theorem onSegment_nearestOnSegment (p a b : Point Rat) :
    OnSegment a b (nearestOnSegment p a b) := by
  rw [nearestOnSegment]
  split
  · refine ⟨0, le_rfl, zero_le_one, ?_⟩
    ext <;> simp
  · rw [Scalar.zero_rat, Scalar.one_rat]
    refine ⟨_, ?_, ?_, rfl⟩ <;> rw [Scalar.clamp_rat zero_le_one]
    · exact le_max_left _ _
    · exact max_le zero_le_one (min_le_right _ _)

theorem OnSegment.eq_of_point {a q : Point Rat} (h : OnSegment a a q) : q = a := by
  obtain ⟨t, -, -, rfl⟩ := h
  ext <;> simp

/-- No point of the segment is nearer than the one that is taken. -/
theorem nearestOnSegment_le {a b q : Point Rat} (h : IsSegment a b) (p : Point Rat)
    (hq : OnSegment a b q) :
    (p - nearestOnSegment p a b).dot (p - nearestOnSegment p a b) ≤ (p - q).dot (p - q) := by
  have hepsilon : (0 : Rat) < Scalar.epsilon := by norm_num [Scalar.epsilon]
  rcases h with rfl | hlong
  · rw [hq.eq_of_point, (onSegment_nearestOnSegment p a a).eq_of_point]
  · obtain ⟨t, hlow, hhigh, rfl⟩ := hq
    rw [nearestOnSegment, if_neg (not_le.mpr hlong), Scalar.zero_rat, Scalar.one_rat]
    exact dot_sub_clamp_le (hepsilon.trans hlong) hlow hhigh

/-! ### All segments -/

section Metric

variable {α : Type} [Metric α]

/-- There is one distance for each two points that follow each other. -/
theorem mem_segmentDistances {p : Point α} {points : List (Point α)} {d : α} :
    d ∈ segmentDistances p points ↔ ∃ a b, [a, b] <:+: points ∧ p.segmentDistance a b = d := by
  fun_induction segmentDistances p points with
  | case1 a b rest ih =>
    rw [List.mem_cons, ih]
    constructor
    · rintro (rfl | ⟨c, e, hinfix, hd⟩)
      · exact ⟨a, b, (List.prefix_append [a, b] rest).isInfix, rfl⟩
      · exact ⟨c, e, List.infix_cons hinfix, hd⟩
    · rintro ⟨c, e, hinfix, hd⟩
      rcases List.infix_cons_iff.mp hinfix with hprefix | hinfix
      · rw [List.cons_prefix_cons, List.cons_prefix_cons] at hprefix
        obtain ⟨rfl, rfl, -⟩ := hprefix
        exact .inl hd.symm
      · exact .inr ⟨c, e, hinfix, hd⟩
  | case2 points hshort =>
    refine iff_of_false List.not_mem_nil ?_
    rintro ⟨a, b, hinfix, -⟩
    have hlength := hinfix.length_le
    match points with
    | [] | [_] => simp at hlength
    | c :: e :: rest => exact hshort c e rest rfl

end Metric

section Rational

variable [RationalMetric]

theorem foldl_nearer_some (d : Rat) (ds : List Rat) :
    ds.foldl nearer (some d) = some (ds.foldl Min.min d) := by
  induction ds generalizing d with
  | nil => rfl
  | cons next ds ih =>
    rw [List.foldl_cons, List.foldl_cons, nearer, Scalar.min_rat]
    exact ih (Min.min d next)

/-- The distance to a polyline of two points and more is the least of the distances to segments. -/
theorem min?_segmentDistances (p : Point Rat) {points : List (Point Rat)}
    (h : 2 ≤ points.length) :
    (segmentDistances p points).min? = some (p.polylineDistance points) := by
  match points with
  | [] | [_] => simp at h
  | a :: b :: rest =>
    have hfold : p.polylineDistance? (a :: b :: rest) =
        (segmentDistances p (a :: b :: rest)).foldl nearer none := rfl
    have hfirst : nearer none (p.segmentDistance a b) = some (p.segmentDistance a b) :=
      if_pos (Scalar.isNumber_rat _)
    rw [polylineDistance, hfold, segmentDistances, List.foldl_cons, hfirst, foldl_nearer_some,
      Option.getD_some, List.min?_cons']

/-- **The distance to a polyline whose segments are points or long enough is at most the distance to
every point of every segment, and it is the distance to one of them.** -/
theorem polylineDistance_least (p : Point Rat) {points : List (Point Rat)}
    (hlength : 2 ≤ points.length) (hsegments : points.IsChain IsSegment) :
    (∀ a b q, [a, b] <:+: points → OnSegment a b q →
      p.polylineDistance points ≤ p.distance q) ∧
    ∃ a b q, [a, b] <:+: points ∧ OnSegment a b q ∧
      p.polylineDistance points = p.distance q := by
  obtain ⟨hmem, hle⟩ := List.min?_eq_some_iff.mp (min?_segmentDistances p hlength)
  constructor
  · intro a b q hinfix hq
    have hpair : [a, b].IsChain IsSegment := List.IsChain.infix hsegments hinfix
    calc p.polylineDistance points
        ≤ p.segmentDistance a b := hle _ (mem_segmentDistances.mpr ⟨a, b, hinfix, rfl⟩)
      _ ≤ p.distance q := RationalMetric.monotone (nearestOnSegment_le hpair.rel p hq)
  · obtain ⟨a, b, hinfix, hdistance⟩ := mem_segmentDistances.mp hmem
    exact ⟨a, b, nearestOnSegment p a b, hinfix, onSegment_nearestOnSegment p a b, hdistance.symm⟩

end Rational

/-- A polyline with a corner that is there twice. -/
def hook : List (Point Rat) := [⟨0, 0⟩, ⟨10, 0⟩, ⟨10, 0⟩, ⟨10, 10⟩]

theorem polylineDistance_least_hook :
    letI := RationalMetric.squared
    2 ≤ hook.length ∧ hook.IsChain IsSegment ∧ polylineDistance ⟨12, 5⟩ hook = 4 ∧
      (∀ a b q, [a, b] <:+: hook → OnSegment a b q →
        polylineDistance ⟨12, 5⟩ hook ≤ distance ⟨12, 5⟩ q) ∧
      ∃ a b q, [a, b] <:+: hook ∧ OnSegment a b q ∧
        polylineDistance ⟨12, 5⟩ hook = distance ⟨12, 5⟩ q := by
  let squared := RationalMetric.squared
  have hlength : 2 ≤ hook.length := by decide
  have hsegments : hook.IsChain IsSegment := by decide +kernel
  exact ⟨hlength, hsegments, by decide +kernel, polylineDistance_least ⟨12, 5⟩ hlength hsegments⟩

end Point

end EventGraph
