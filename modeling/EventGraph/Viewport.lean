import EventGraph.Plane.Basic

/-!
# Viewport

Pan and zoom of the canvas. A world point appears on the screen at `origin + point * scale`,
where the origin is the pan offset moved to the middle of the canvas and back by half the
zone. Both directions go through `origin`.
-/

namespace EventGraph

structure Viewport (α : Type) where
  /-- Pan offset in screen pixels. -/
  offset : Point α
  scale : α
  /-- Size of the drawing surface in screen pixels. -/
  canvas : Point α
  /-- Size of the world zone in the middle of the canvas, unscaled. -/
  zone : Point α
  minScale : α
  maxScale : α
  deriving BEq, Repr

namespace Viewport

variable {α : Type} [Scalar α]

def defaultMinScale : α := 0.5

def defaultMaxScale : α := 10.0

def ofCanvas (canvas : Point α) : Viewport α :=
  { offset := .zero, scale := 1.0, canvas, zone := .zero,
    minScale := defaultMinScale, maxScale := defaultMaxScale }

def default : Viewport α := ofCanvas ⟨800.0, 600.0⟩

def setScale (v : Viewport α) (scale : α) : Viewport α :=
  { v with scale := Scalar.clamp scale v.minScale v.maxScale }

/-- Changes the zoom limits, given in either order and kept positive, and moves the scale
into them. -/
def setLimits (v : Viewport α) (a b : α) : Viewport α :=
  let (low, high) := if a ≤ b then (a, b) else (b, a)
  let minScale := Scalar.max low Scalar.epsilon
  setScale { v with minScale, maxScale := Scalar.max high minScale } v.scale

/-- Screen position of the world origin. -/
def origin (v : Viewport α) : Point α :=
  Point.zero + v.offset + v.canvas * (0.5 : α) - v.zone * (0.5 : α)

def withOrigin (v : Viewport α) (origin : Point α) : Viewport α :=
  { v with offset := origin - v.canvas * (0.5 : α) + v.zone * (0.5 : α) }

def toScreen (v : Viewport α) (world : Point α) : Point α := v.origin + world * v.scale

def toWorld (v : Viewport α) (screen : Point α) : Point α :=
  Point.zero + (screen - v.origin) / v.scale

def rectToScreen (v : Viewport α) (r : Rect α) : Rect α := ⟨v.toScreen r.min, v.toScreen r.max⟩

/-- The part of the world that the canvas shows. -/
def visible (v : Viewport α) : Rect α := ⟨v.toWorld .zero, v.toWorld (Point.zero + v.canvas)⟩

def pan (v : Viewport α) (delta : Point α) : Viewport α := { v with offset := v.offset + delta }

/-- Multiplies the scale within its limits and keeps the world point under `focal` where it
is on the screen. The second component tells whether the scale changed. -/
def zoomAt (v : Viewport α) (focal : Point α) (factor : α) : Viewport α × Bool :=
  let zoomed := v.setScale (v.scale * factor)
  if zoomed.scale == v.scale then (zoomed, false)
  else
    let ratio := zoomed.scale / v.scale
    (zoomed.withOrigin (focal - (focal - zoomed.origin) * ratio), true)

end Viewport

end EventGraph
