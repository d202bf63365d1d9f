import EventGraph.Editor.Settings
import EventGraph.Graph.Connector

/-!
# Editors

An editor holds a graph, the view of it, what is selected and under the pointer, and the one
gesture in progress.
-/

namespace EventGraph

/-- One exit of one node. -/
structure ExitId where
  node : NodeId
  index : Nat
  deriving Repr, DecidableEq

def Connector.exit {α : Type} (c : Connector α) : ExitId := ⟨c.source, c.index⟩

/-- What the pointer is over. -/
inductive Hit where
  | closeButton (node : NodeId)
  | exit (exit : ExitId)
  | body (node : NodeId)
  | connector (exit : ExitId)
  deriving Repr, DecidableEq

namespace Hit

/-- The node of which a part is hit, or whose exit the hit connector leaves. -/
def owner : Hit → NodeId
  | closeButton node | body node => node
  | exit e | connector e => e.node

/-- The node that is hit itself. -/
def node? : Hit → Option NodeId
  | closeButton node | body node => some node
  | exit e => some e.node
  | connector _ => none

end Hit

/-- Selected nodes in the order in which they were selected, each once. -/
abbrev Selection := List NodeId

namespace Selection

/-- Adds an id at the end unless it is selected. -/
def add (s : Selection) (id : NodeId) : Selection := if id ∈ s then s else s ++ [id]

def remove (s : Selection) (id : NodeId) : Selection := s.filter (· ≠ id)

def toggle (s : Selection) (id : NodeId) : Selection :=
  if id ∈ s then s.remove id else s ++ [id]

end Selection

/-- What the pointer is used for. Positions are in the world unless said otherwise. -/
inductive Gesture (α : Type) where
  | idle
  /-- Moving the view; the last pointer position on the screen. -/
  | panning (last : Point α)
  /-- Moving nodes; where the press was and where the nodes were then. -/
  | dragging (anchor : Point α) (starts : List (NodeId × Point α))
  /-- Selecting with a rectangle, beyond what was selected before. -/
  | selecting (start current : Point α) (base : Selection)
  /-- Waiting for a press on the node an exit is to lead to. -/
  | linking (exit : ExitId) (cursor : Point α)

namespace Gesture

variable {α : Type}

def isIdle : Gesture α → Bool
  | idle => true
  | _ => false

/-- Takes a node out of a gesture. Linking one of its exits ends. -/
def forget (id : NodeId) : Gesture α → Gesture α
  | dragging anchor starts => dragging anchor (starts.filter (·.1 ≠ id))
  | selecting start current base => selecting start current (base.remove id)
  | linking exit cursor => if exit.node = id then idle else linking exit cursor
  | gesture => gesture

end Gesture

/-- A press on the body of a node. -/
structure Click where
  node : NodeId
  time : Nat
  deriving Repr, DecidableEq

structure Editor (α : Type) where
  graph : Graph α
  viewport : Viewport α
  settings : Settings α
  gesture : Gesture α := .idle
  selection : Selection := []
  /-- The selected connector, named by its exit. -/
  selectedExit : Option ExitId := none
  hover : Option Hit := none
  /-- The last pointer position on the screen. -/
  pointer : Option (Point α) := none
  /-- The press that a further one can make a double click. -/
  lastClick : Option Click := none

namespace Editor

variable {α : Type}

/-- A fresh editor on a graph. -/
def ofGraph [Scalar α] (settings : Settings α) (graph : Graph α) : Editor α where
  graph
  settings
  viewport := Viewport.default.setLimits settings.minScale settings.maxScale

def isSelected (e : Editor α) (id : NodeId) : Bool := e.selection.contains id

/-- Selects a node, on its own or beside the selected ones. -/
def selectNode (e : Editor α) (id : NodeId) (beside : Bool) : Editor α :=
  { e with selection := if beside then e.selection.add id else [id], selectedExit := none }

def toggleNode (e : Editor α) (id : NodeId) : Editor α :=
  { e with selection := e.selection.toggle id }

def clearSelection (e : Editor α) : Editor α := { e with selection := [], selectedExit := none }

/-- Starts to link an exit. -/
def beginLinking [Scalar α] (e : Editor α) (exit : ExitId) : Except GraphError (Editor α) :=
  match e.graph.node? exit.node with
  | none => .error (.nodeNotFound exit.node)
  | some n => match n.exitAnchors[exit.index]? with
    | none => .error (.exitOutOfRange exit.node exit.index)
    | some anchor => .ok { e with gesture := .linking exit anchor }

end Editor

end EventGraph
