import EventGraph.Editor.Basic

/-!
# Picking

What lies under a screen position. The topmost node wins; on a node the close button and the
exits come before the body. Connectors are reached only where no node is.
-/

namespace EventGraph

variable {α : Type} [Metric α]

/-- The part of a node at a world point, when exits reach as far as `reach`. -/
def Node.hitAt (n : Node α) (reach : α) (world : Point α) : Option Hit :=
  if n.closeButton.contains world then some (.closeButton n.id)
  else match n.exitAnchors.findIdx? fun anchor => anchor.distance world ≤ reach with
    | some index => some (.exit ⟨n.id, index⟩)
    | none => if n.rect.contains world then some (.body n.id) else none

/-- The first of the nearest items. -/
def nearest? {β : Type} (distance : β → α) : List β → Option β
  | [] => none
  | b :: rest => some (rest.foldl (fun best c => if distance c < distance best then c else best) b)

namespace Editor

/-- How far from its anchor an exit is hit. Below full scale the reach on the screen stays. -/
def exitReach (e : Editor α) : α := Metrics.anchorRadius / Scalar.min e.viewport.scale 1.0

/-- How far from its curve a connector is hit. -/
def connectorReach (e : Editor α) : α := e.settings.connectorHitDistance / e.viewport.scale

/-- The connector at a world point. -/
def connectorAt? (e : Editor α) (world : Point α) : Option (Connector α) :=
  nearest? (fun c => c.distance world) (e.graph.connectors.filter fun c =>
    c.stop.isSome && decide (c.distance world ≤ e.connectorReach))

def hitAt (e : Editor α) (screen : Point α) : Option Hit :=
  let world := e.viewport.toWorld screen
  match e.graph.nodes.reverse.findSome? (·.hitAt e.exitReach world) with
  | some hit => some hit
  | none => (e.connectorAt? world).map fun c => .connector c.exit

end Editor

end EventGraph
