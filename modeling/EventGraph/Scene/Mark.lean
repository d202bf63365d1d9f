import EventGraph.Color
import EventGraph.Plane.Basic

/-!
# Marks

The drawing vocabulary. Positions and sizes are on the screen.
-/

namespace EventGraph.Scene

structure Stroke (α : Type) where
  width : α
  color : Color
  deriving BEq, Repr

/-- The radii of the corners of a box. -/
structure Corners (α : Type) where
  topLeft : α
  topRight : α
  bottomLeft : α
  bottomRight : α
  deriving BEq, Repr

/-- How a text lies about its position. -/
inductive Alignment where
  | leftCenter
  | rightCenter
  deriving Repr, DecidableEq

inductive Mark (α : Type) where
  | line (start stop : Point α) (stroke : Stroke α)
  | path (points : List (Point α)) (stroke : Stroke α)
  | box (rect : Rect α) (corners : Corners α) (fill : Color) (stroke : Stroke α)
  | circle (center : Point α) (radius : α) (fill : Color) (stroke : Stroke α)
  | text (position : Point α) (alignment : Alignment) (text : String) (size : α) (color : Color)
  | sprite (rect : Rect α) (name : String)
  deriving BEq, Repr

variable {α : Type} [Scalar α]

def Stroke.none : Stroke α := ⟨0.0, .transparent⟩

namespace Corners

def square : Corners α := ⟨0.0, 0.0, 0.0, 0.0⟩

def round (radius : α) : Corners α := ⟨radius, radius, radius, radius⟩

/-- Round at the top only. -/
def roundTop (radius : α) : Corners α := ⟨radius, radius, 0.0, 0.0⟩

end Corners

end EventGraph.Scene
