import EventGraph.Editor.Basic

/-!
# Edits

Changes of a graph and of a gesture, with the actions that report them. Removing a node also
drops what the editor holds of it.
-/

namespace EventGraph

namespace Editor

inductive Action where
  /-- The form of a node is to be opened. -/
  | opened (node : NodeId)
  | removed (node : NodeId)
  | linked (exit : ExitId) (target : NodeId)
  | unlinked (exit : ExitId)
  /-- A link was not made. -/
  | linkCancelled
  | moved (nodes : List NodeId)
  | selectionChanged
  deriving Repr, DecidableEq

variable {α : Type}

/-- Puts nodes where they were. -/
def restore (g : Graph α) (starts : List (NodeId × Point α)) : Graph α :=
  starts.foldl (fun g (id, p) => g.moveNode id p) g

/-- Ends the gesture. Dragged nodes go back, a rectangle selection is taken back. -/
def cancel (e : Editor α) : Editor α × List Action :=
  let ended := { e with gesture := .idle }
  match e.gesture with
  | .linking .. => (ended, [.linkCancelled])
  | .dragging _ starts => ({ ended with graph := restore e.graph starts }, [])
  | .selecting _ _ base => ({ ended with selection := base }, [.selectionChanged])
  | .idle | .panning _ => (ended, [])

/-- Whether an exit belongs to a node or leads to it. -/
def touches (g : Graph α) (id : NodeId) (exit : ExitId) : Bool :=
  exit.node == id || ((g.node? exit.node).bind (·.exit? exit.index)) == some id

/-- Removes a node. What is held of it is dropped; a selected connector goes also where the
node is not in the graph. -/
def removeNode (e : Editor α) (id : NodeId) : Editor α × List Action :=
  let e := { e with selectedExit := e.selectedExit.filter fun exit => !touches e.graph id exit }
  match e.graph.remove id with
  | none => (e, [])
  | some (graph, _) =>
    ({ e with
        graph
        selection := e.selection.remove id
        hover := e.hover.filter (·.owner ≠ id)
        lastClick := e.lastClick.filter (·.node ≠ id)
        gesture := e.gesture.forget id }, [.removed id])

/-- Removes nodes in order. -/
def removeNodes (e : Editor α) : List NodeId → Editor α × List Action
  | [] => (e, [])
  | id :: rest =>
    let (e, removed) := e.removeNode id
    let (e, more) := e.removeNodes rest
    (e, removed ++ more)

/-- Unlinks the selected connector or, without one, removes the selected nodes. -/
def deleteSelected (e : Editor α) : Editor α × List Action :=
  match e.selectedExit with
  | none => e.removeNodes e.selection
  | some exit =>
    let e := { e with selectedExit := none }
    match e.graph.clearLink exit.node exit.index with
    | .ok (graph, some _) => ({ e with graph }, [.unlinked exit])
    | .ok (graph, none) => ({ e with graph }, [])
    | .error _ => (e, [])

end Editor

end EventGraph
