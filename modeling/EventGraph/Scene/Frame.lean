import EventGraph.Scene.Block
import EventGraph.Scene.Grid

/-!
# Frames

A frame lists the marks that show an editor, back to front: the grid, the connectors, the link
being made, the visible nodes in graph order, the selection rectangle and a sprite.
-/

namespace EventGraph.Scene

variable {α : Type} [Scalar α]

def connectorWidth : α := 2.5

def spriteSize : α := 96.0

/-- A curve, given in the world. -/
def curveMark (v : Viewport α) (points : List (Point α)) (color : Color) : Mark α :=
  .path (points.map v.toScreen) ⟨connectorWidth * v.scale, color⟩

def connectorColor (e : Editor α) (exit : ExitId) : Color :=
  if e.selectedExit = some exit then .rgb 255 210 80
  else if e.hover = some (.connector exit) then .rgb 230 230 230
  else .rgb 160 160 170

/-- The connectors that have an end. -/
def connectorMarks (e : Editor α) : List (Mark α) :=
  e.graph.connectors.filterMap fun c =>
    c.curve?.map fun points => curveMark e.viewport points (connectorColor e c.exit)

/-- The link that is being made. -/
def linkMark? (e : Editor α) : Option (Mark α) :=
  match e.gesture with
  | .linking exit cursor => do
    let n ← e.graph.node? exit.node
    let start ← n.exitAnchors[exit.index]?
    pure (curveMark e.viewport
      (Curve.horizontal start cursor Connector.curvature Connector.segments) (.rgb 100 150 255))
  | _ => none

/-- The nodes that overlap the visible part of the world. -/
def visibleNodes (e : Editor α) : List (Node α) :=
  e.graph.nodes.filter (·.rect.overlaps e.viewport.visible)

def nodeMarks (e : Editor α) (m : Measurer α) (h : Highlights α) : List (Mark α) :=
  (visibleNodes e).flatMap (Block.marks e m h)

def selectionMark? (e : Editor α) : Option (Mark α) :=
  match e.gesture with
  | .selecting start current _ =>
    some (.box (e.viewport.rectToScreen (Rect.spanning start current)) .square
      ⟨0x21, 0x35, 0x60, 0x1e⟩ ⟨1.0, .rgb 100 150 255⟩)
  | _ => none

def spriteMark? (h : Highlights α) : Option (Mark α) :=
  h.sprite.map fun (name, corner) => .sprite (.ofSize corner (.diagonal spriteSize)) name

def gridMarks (e : Editor α) : Option (List (Mark α)) :=
  if e.settings.showGrid then Grid.marks e.viewport e.settings.gridSpacing else some []

/-- The marks of a frame; there are none where the grid has no end. -/
def frame (e : Editor α) (m : Measurer α) (h : Highlights α) : Option (List (Mark α)) :=
  (gridMarks e).map fun grid =>
    grid ++ connectorMarks e ++ (linkMark? e).toList ++ nodeMarks e m h ++
      (selectionMark? e).toList ++ (spriteMark? h).toList

end EventGraph.Scene
