import EventGraph.Plane.Basic

/-!
# Segments, polylines and curves

Distances to segments and polylines, and the cubic curves drawn for connectors.
-/

namespace EventGraph

namespace Point

variable {α : Type}

/-- The point of the segment from `a` to `b` that is nearest to `p`; `a` when the segment is
too short to have a direction. -/
def nearestOnSegment [Scalar α] (p a b : Point α) : Point α :=
  let ab := b - a
  let lengthSq := ab.dot ab
  if lengthSq ≤ Scalar.epsilon then a
  else a + ab * Scalar.clamp ((p - a).dot ab / lengthSq) 0.0 1.0

variable [Metric α]

def segmentDistance (p a b : Point α) : α := p.distance (nearestOnSegment p a b)

/-- The lesser of a distance found so far and another one. What is not a number is passed
over. -/
def nearer (found : Option α) (d : α) : Option α :=
  match found with
  | some least => some (Scalar.min least d)
  | none => if Scalar.isNumber d then some d else none

/-- The distances from `p` to the segments of a polyline, in order. -/
def segmentDistances (p : Point α) : List (Point α) → List α
  | a :: b :: rest => p.segmentDistance a b :: segmentDistances p (b :: rest)
  | _ => []

/-- The distance from `p` to the nearest segment of a polyline, if there is any. -/
def polylineDistance? (p : Point α) : List (Point α) → Option α
  | [] => none
  | [q] => some (p.distance q)
  | points => (segmentDistances p points).foldl nearer none

def polylineDistance (p : Point α) (points : List (Point α)) : α :=
  (p.polylineDistance? points).getD Metric.infinity

end Point

namespace Curve

variable {α : Type} [Scalar α]

/-- The point at `t` of the cubic curve with the given control points. -/
def cubicAt (p0 p1 p2 p3 : Point α) (t : α) : Point α :=
  let t2 := t * t
  let t3 := t2 * t
  let mt := 1.0 - t
  let mt2 := mt * mt
  let mt3 := mt2 * mt
  ⟨mt3 * p0.x + 3.0 * mt2 * t * p1.x + 3.0 * mt * t2 * p2.x + t3 * p3.x,
   mt3 * p0.y + 3.0 * mt2 * t * p1.y + 3.0 * mt * t2 * p2.y + t3 * p3.y⟩

/-- A cubic curve as a polyline of at least one segment. -/
def cubic (p0 p1 p2 p3 : Point α) (segments : Nat) : List (Point α) :=
  let segments := max segments 1
  (List.range (segments + 1)).map fun (i : Nat) => cubicAt p0 p1 p2 p3 ((i : α) / (segments : α))

/-- A curve that leaves and arrives horizontally. -/
def horizontal (start stop : Point α) (curvature : α) (segments : Nat) : List (Point α) :=
  let distance := Scalar.abs (stop.x - start.x)
  let bend := Scalar.max (Scalar.min curvature (distance * 0.5)) (curvature * 0.5)
  cubic start ⟨start.x + bend, start.y⟩ ⟨stop.x - bend, stop.y⟩ stop segments

end Curve

end EventGraph
