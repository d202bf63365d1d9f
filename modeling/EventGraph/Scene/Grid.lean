import EventGraph.Scene.Mark
import EventGraph.Viewport

/-!
# Grids

Lines at the multiples of a spacing, drawn where they are far enough apart on the screen. Each
is found by adding the spacing to the one before, in the arithmetic of the scalars; where that
gets no further, the lines have no end and there is no grid.
-/

namespace EventGraph.Scene.Grid

variable {α : Type} [Scalar α]

/-- Lines that are closer on the screen are not drawn. -/
def leastDistance : α := 4.0

def stroke : Stroke α := ⟨1.0, ⟨0x24, 0x24, 0x24, 0x64⟩⟩

/-- The positions from `x` up to `last` that are `spacing` apart, if they end. -/
def positionsFrom (spacing last : α) : Nat → α → Option (List α)
  | 0, _ => none
  | bound + 1, x =>
    if x ≤ last then
      if x + spacing ≤ x then none
      else (positionsFrom spacing last bound (x + spacing)).map (x :: ·)
    else some []

/-- No rising sequence of singles is this long. -/
def bound : Nat := UInt32.size

/-- The multiples of the spacing between two positions. -/
def positions (spacing first last : α) : Option (List α) :=
  positionsFrom spacing last bound (Scalar.ceil (first / spacing) * spacing)

/-- Whether lines of a spacing are drawn at a scale. -/
def isDrawn (spacing scale : α) : Bool :=
  !(decide (spacing ≤ 0.0) || decide (spacing * scale < leastDistance))

def vertical (v : Viewport α) (shown : Rect α) (x : α) : Mark α :=
  let x := (v.toScreen ⟨x, 0.0⟩).x
  .line ⟨x, (v.toScreen shown.min).y⟩ ⟨x, (v.toScreen shown.max).y⟩ stroke

def horizontal (v : Viewport α) (shown : Rect α) (y : α) : Mark α :=
  let y := (v.toScreen ⟨0.0, y⟩).y
  .line ⟨(v.toScreen shown.min).x, y⟩ ⟨(v.toScreen shown.max).x, y⟩ stroke

/-- The lines in the visible part of the world, the vertical ones first. -/
def marks (v : Viewport α) (spacing : α) : Option (List (Mark α)) :=
  if isDrawn spacing v.scale then do
    let shown := v.visible
    let xs ← positions spacing shown.min.x shown.max.x
    let ys ← positions spacing shown.min.y shown.max.y
    pure (xs.map (vertical v shown) ++ ys.map (horizontal v shown))
  else some []

end EventGraph.Scene.Grid
