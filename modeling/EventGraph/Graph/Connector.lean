import EventGraph.Graph.Basic
import EventGraph.Plane.Curve

/-!
# Connectors

A connector is the view of one exit: where it starts, what it names and, if that is a node of
the graph, where it ends.
-/

namespace EventGraph

structure Connector (α : Type) where
  source : NodeId
  index : Nat
  target : Option NodeId
  start : Point α
  /-- The entrance of the target, if the target exists. -/
  stop : Option (Point α)

namespace Connector

variable {α : Type}

def isConnected (c : Connector α) : Bool := c.target.isSome

def isDangling (c : Connector α) : Bool := c.target.isSome && c.stop.isNone

def involves (c : Connector α) (id : NodeId) : Bool := c.source == id || c.target == some id

def curvature [Scalar α] : α := 50.0

def segments : Nat := 24

/-- The drawn curve, if the connector has an end. -/
def curve? [Scalar α] (c : Connector α) : Option (List (Point α)) :=
  c.stop.map fun stop => Curve.horizontal c.start stop curvature segments

/-- The distance from a world point to the drawn curve. -/
def distance [Metric α] (c : Connector α) (p : Point α) : α :=
  match c.curve? with
  | some points => p.polylineDistance points
  | none => Metric.infinity

end Connector

namespace Graph

variable {α : Type} [Scalar α]

/-- The connectors of one node, in exit order. -/
def connectorsOf (g : Graph α) (n : Node α) : List (Connector α) :=
  (n.exitAnchors.zip n.body.exits).mapIdx fun index (start, target) =>
    { source := n.id, index, target, start,
      stop := (target.bind g.node?).map (·.entrance) }

/-- The connectors of all nodes, in node and exit order. -/
def connectors (g : Graph α) : List (Connector α) := g.nodes.flatMap g.connectorsOf

/-- The connectors that name a node as their target. -/
def connectorsTo (g : Graph α) (id : NodeId) : List (Connector α) :=
  g.connectors.filter (·.target == some id)

end Graph

end EventGraph
