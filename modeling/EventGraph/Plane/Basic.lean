import EventGraph.Scalar

/-!
# Points and rectangles

A point also serves as a vector. Rectangles are given by their least and greatest corner and
contain their sides.
-/

namespace EventGraph

structure Point (α : Type) where
  x : α
  y : α
  deriving BEq, DecidableEq, Repr

namespace Point

variable {α : Type} [Scalar α]

instance : Add (Point α) := ⟨fun p q => ⟨p.x + q.x, p.y + q.y⟩⟩

instance : Sub (Point α) := ⟨fun p q => ⟨p.x - q.x, p.y - q.y⟩⟩

instance : HMul (Point α) α (Point α) := ⟨fun p a => ⟨p.x * a, p.y * a⟩⟩

instance : HDiv (Point α) α (Point α) := ⟨fun p a => ⟨p.x / a, p.y / a⟩⟩

def zero : Point α := ⟨0.0, 0.0⟩

def diagonal (a : α) : Point α := ⟨a, a⟩

def dot (p q : Point α) : α := p.x * q.x + p.y * q.y

def distance {α : Type} [Metric α] (p q : Point α) : α := Metric.length (p.x - q.x) (p.y - q.y)

@[simp] theorem add_x (p q : Point α) : (p + q).x = p.x + q.x := rfl
@[simp] theorem add_y (p q : Point α) : (p + q).y = p.y + q.y := rfl
@[simp] theorem sub_x (p q : Point α) : (p - q).x = p.x - q.x := rfl
@[simp] theorem sub_y (p q : Point α) : (p - q).y = p.y - q.y := rfl
@[simp] theorem mul_x (p : Point α) (a : α) : (p * a).x = p.x * a := rfl
@[simp] theorem mul_y (p : Point α) (a : α) : (p * a).y = p.y * a := rfl
@[simp] theorem div_x (p : Point α) (a : α) : (p / a).x = p.x / a := rfl
@[simp] theorem div_y (p : Point α) (a : α) : (p / a).y = p.y / a := rfl

end Point

structure Rect (α : Type) where
  min : Point α
  max : Point α
  deriving BEq, DecidableEq, Repr

namespace Rect

variable {α : Type} [Scalar α]

def ofSize (corner size : Point α) : Rect α := ⟨corner, corner + size⟩

/-- The rectangle spanned by two opposite corners. -/
def spanning (p q : Point α) : Rect α :=
  ⟨⟨Scalar.min p.x q.x, Scalar.min p.y q.y⟩, ⟨Scalar.max p.x q.x, Scalar.max p.y q.y⟩⟩

def contains (r : Rect α) (p : Point α) : Bool :=
  r.min.x ≤ p.x && p.x ≤ r.max.x && r.min.y ≤ p.y && p.y ≤ r.max.y

def overlaps (r s : Rect α) : Bool :=
  r.min.x ≤ s.max.x && s.min.x ≤ r.max.x && r.min.y ≤ s.max.y && s.min.y ≤ r.max.y

def width (r : Rect α) : α := r.max.x - r.min.x

def translate (r : Rect α) (v : Point α) : Rect α := ofSize (r.min + v) (r.max - r.min)

/-- Moves every side inwards. -/
def shrink (r : Rect α) (a : α) : Rect α := ⟨r.min + .diagonal a, r.max - .diagonal a⟩

def middleY (r : Rect α) : α := (r.min.y + r.max.y) / 2.0

end Rect

end EventGraph
