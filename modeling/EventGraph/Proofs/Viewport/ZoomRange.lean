import EventGraph.Proofs.Number.Equality
import EventGraph.Proofs.Number.Order
import EventGraph.Viewport

/-!
# The range of the zoom

Clamping to a range is only defined for bounds that are in order. The limits of the zoom are, from a
new viewport on, whatever they are set to: in either order, not above zero, infinite or not numbers
at all. So every clamping has a result, and the scale is within the limits unless it is not a
number.
-/

namespace EventGraph

namespace Scalar

/-- Moves a scalar into a range, if the bounds are in order. -/
def clampWithin? {α : Type} [Scalar α] (a low high : α) : Option α :=
  if low ≤ high then some (clamp a low high) else none

end Scalar

namespace Viewport

/-- A change of what the canvas shows. -/
inductive Adjustment (α : Type) where
  | setLimits (a b : α)
  | setScale (scale : α)
  | zoomAt (focal : Point α) (factor : α)
  | pan (delta : Point α)

section Scalars

variable {α : Type} [Scalar α]

def adjust (v : Viewport α) : Adjustment α → Viewport α
  | .setLimits a b => v.setLimits a b
  | .setScale scale => v.setScale scale
  | .zoomAt focal factor => (v.zoomAt focal factor).1
  | .pan delta => v.pan delta

/-- A viewport with limits raised to epsilon, and the upper one to the lower. -/
def withLimits (v : Viewport α) (low high : α) : Viewport α :=
  let minScale := Scalar.max low Scalar.epsilon
  { v with minScale, maxScale := Scalar.max high minScale }

/-! The changes again, where clamping needs bounds that are in order. -/

def setScale? (v : Viewport α) (scale : α) : Option (Viewport α) := do
  let scale ← Scalar.clampWithin? scale v.minScale v.maxScale
  return { v with scale }

def setLimits? (v : Viewport α) (a b : α) : Option (Viewport α) :=
  let (low, high) := if a ≤ b then (a, b) else (b, a)
  let minScale := Scalar.max low Scalar.epsilon
  setScale? { v with minScale, maxScale := Scalar.max high minScale } v.scale

def zoomAt? (v : Viewport α) (focal : Point α) (factor : α) : Option (Viewport α × Bool) := do
  let zoomed ← v.setScale? (v.scale * factor)
  if zoomed.scale == v.scale then return (zoomed, false)
  let ratio := zoomed.scale / v.scale
  return (zoomed.withOrigin (focal - (focal - zoomed.origin) * ratio), true)

def adjust? (v : Viewport α) : Adjustment α → Option (Viewport α)
  | .setLimits a b => v.setLimits? a b
  | .setScale scale => v.setScale? scale
  | .zoomAt focal factor => (v.zoomAt? focal factor).map Prod.fst
  | .pan delta => some (v.pan delta)

theorem setScale?_eq {v : Viewport α} (h : v.minScale ≤ v.maxScale) (scale : α) :
    v.setScale? scale = some (v.setScale scale) := by
  rw [setScale?, Scalar.clampWithin?, if_pos h]
  rfl

theorem zoomAt?_eq {v : Viewport α} (h : v.minScale ≤ v.maxScale) (focal : Point α) (factor : α) :
    v.zoomAt? focal factor = some (v.zoomAt focal factor) := by
  rw [zoomAt?, zoomAt, setScale?_eq h, Option.bind_eq_bind, Option.bind_some]
  split <;> rfl

/-- The limits are raised to epsilon and to each other, in whichever order they come. -/
theorem exists_withLimits (v : Viewport α) (a b : α) :
    ∃ low high, v.setLimits a b = (v.withLimits low high).setScale v.scale ∧
      v.setLimits? a b = (v.withLimits low high).setScale? v.scale := by
  rw [setLimits, setLimits?]
  generalize (if a ≤ b then (a, b) else (b, a)) = limits
  exact ⟨limits.1, limits.2, rfl, rfl⟩

end Scalars

/-- The limits are in order and above zero, and a scale that is a number is within them. -/
structure InRange (v : Viewport Float32) : Prop where
  positive : Scalar.epsilon ≤ v.minScale
  ordered : v.minScale ≤ v.maxScale
  within : Scalar.isNumber v.scale = true → v.minScale ≤ v.scale ∧ v.scale ≤ v.maxScale

variable {v : Viewport Float32}

theorem inRange_ofCanvas (canvas : Point Float32) : InRange (ofCanvas canvas) := by
  have hpositive : (Scalar.epsilon : Float32) ≤ defaultMinScale := by decide
  have hordered : (defaultMinScale : Float32) ≤ defaultMaxScale := by decide
  have hwithin : (defaultMinScale : Float32) ≤ 1.0 ∧ (1.0 : Float32) ≤ defaultMaxScale := by decide
  exact ⟨hpositive, hordered, fun _ => hwithin⟩

theorem InRange.setScale (h : InRange v) (scale : Float32) : InRange (v.setScale scale) where
  positive := h.positive
  ordered := h.ordered
  within := Scalar.clamp_within h.ordered

/-- Limits of any kind are put in order. -/
theorem ordered_withLimits (v : Viewport Float32) (low high : Float32) :
    Scalar.epsilon ≤ (v.withLimits low high).minScale ∧
      (v.withLimits low high).minScale ≤ (v.withLimits low high).maxScale := by
  have hlow := Scalar.le_max (a := low) (b := Scalar.epsilon) (by decide)
  exact ⟨hlow, Scalar.le_max (Scalar.isNumber_of_le hlow).2⟩

theorem inRange_setLimits (v : Viewport Float32) (a b : Float32) :
    InRange (v.setLimits a b) ∧ v.setLimits? a b = some (v.setLimits a b) := by
  obtain ⟨low, high, hset, hset?⟩ := exists_withLimits v a b
  obtain ⟨hpositive, hordered⟩ := ordered_withLimits v low high
  rw [hset, hset?]
  exact ⟨⟨hpositive, hordered, Scalar.clamp_within hordered⟩, setScale?_eq hordered v.scale⟩

theorem InRange.zoomAt (h : InRange v) (focal : Point Float32) (factor : Float32) :
    InRange (v.zoomAt focal factor).1 := by
  have hzoomed := h.setScale (v.scale * factor)
  rw [Viewport.zoomAt]
  split
  · exact hzoomed
  · exact ⟨hzoomed.positive, hzoomed.ordered, hzoomed.within⟩

theorem InRange.adjust (h : InRange v) (change : Adjustment Float32) :
    InRange (v.adjust change) ∧ v.adjust? change = some (v.adjust change) := by
  cases change with
  | setLimits a b => exact inRange_setLimits v a b
  | setScale scale => exact ⟨h.setScale scale, setScale?_eq h.ordered scale⟩
  | zoomAt focal factor =>
    refine ⟨h.zoomAt focal factor, ?_⟩
    rw [adjust?, zoomAt?_eq h.ordered]
    rfl
  | pan delta => exact ⟨⟨h.positive, h.ordered, h.within⟩, rfl⟩

theorem InRange.foldl_adjust (h : InRange v) (changes : List (Adjustment Float32)) :
    InRange (changes.foldl Viewport.adjust v) ∧
      changes.foldlM adjust? v = some (changes.foldl Viewport.adjust v) := by
  induction changes generalizing v with
  | nil => exact ⟨h, rfl⟩
  | cons change changes ih =>
    obtain ⟨hnext, hsome⟩ := h.adjust change
    rw [List.foldlM_cons, List.foldl_cons, hsome]
    exact ih hnext

/-- **However a new viewport is zoomed and panned and its limits are set, the bounds of every
clamping are in order: the limits stay numbers, in order and at least epsilon, and the scale stays
within them or is not a number.** -/
theorem zoom_in_range (canvas : Point Float32) (changes : List (Adjustment Float32)) :
    let v := changes.foldl adjust (ofCanvas canvas)
    changes.foldlM adjust? (ofCanvas canvas) = some v ∧
    Scalar.isNumber v.minScale = true ∧ Scalar.isNumber v.maxScale = true ∧
    Scalar.epsilon ≤ v.minScale ∧ v.minScale ≤ v.maxScale ∧
    (Scalar.isNumber v.scale = false ∨ v.minScale ≤ v.scale ∧ v.scale ≤ v.maxScale) := by
  obtain ⟨hrange, hsome⟩ := (inRange_ofCanvas canvas).foldl_adjust changes
  obtain ⟨hmin, hmax⟩ := Scalar.isNumber_of_le hrange.ordered
  refine ⟨hsome, hmin, hmax, hrange.positive, hrange.ordered, ?_⟩
  cases hscale : Scalar.isNumber (changes.foldl adjust (ofCanvas canvas)).scale with
  | false => exact .inl rfl
  | true => exact .inr (hrange.within hscale)

end Viewport

end EventGraph
