import EventGraph.Editor.Action
import EventGraph.Editor.Pick

/-!
# Events

What pointer, wheel and keys do to an editor. A press starts a gesture, moves carry it on and
a release ends it, except that linking is ended by the next press.
-/

namespace EventGraph

/-- Further buttons are all alike. -/
inductive Button where
  | primary
  | middle
  | other
  deriving Repr, DecidableEq

structure Modifiers where
  shift : Bool := false
  ctrl : Bool := false
  command : Bool := false
  deriving Repr, DecidableEq

/-- Whether a press adds to the selection. -/
def Modifiers.isAdditive (m : Modifiers) : Bool := m.shift || m.ctrl || m.command

inductive Key where
  | escape
  | delete
  | backspace
  | other
  deriving Repr, DecidableEq

/-- Positions and sizes are on the screen, times in milliseconds. -/
inductive Event (α : Type) where
  | press (position : Point α) (button : Button) (modifiers : Modifiers) (time : Nat)
  | move (position : Point α)
  | release (position : Point α)
  | wheel (position : Point α) (delta : α)
  | key (key : Key)
  | resize (size : Point α)

namespace Editor

variable {α : Type} [Metric α]

/-- Selected ids and the nodes that overlap the rectangle between two corners. -/
def rectSelection (g : Graph α) (a b : Point α) (base : Selection) : Selection :=
  ((g.nodes.filter fun n => (Rect.spanning a b).overlaps n.rect).map (·.id)).foldl
    Selection.add base

/-- The selected nodes and where they are. -/
def startPositions (e : Editor α) : List (NodeId × Point α) :=
  e.selection.filterMap fun id => (e.graph.node? id).map fun n => (id, n.position)

/-! ### Press -/

/-- Whether a press on a body is the second of a double click. -/
def isDoubleClick (e : Editor α) (id : NodeId) (time : Nat) : Bool :=
  match e.lastClick with
  | some click => click.node == id && decide (time - click.time ≤ e.settings.doubleClickMs)
  | none => false

def pressBody (e : Editor α) (id : NodeId) (world : Point α) (additive : Bool) (time : Nat) :
    Editor α × List Action :=
  let double := e.isDoubleClick id time
  let before := e.selection
  let e := { e with lastClick := if double then none else some ⟨id, time⟩ }
  let e :=
    if additive then e.toggleNode id
    else if e.isSelected id then e
    else e.selectNode id false
  let e := { e with selectedExit := none }
  let e := if e.isSelected id then { e with gesture := .dragging world e.startPositions } else e
  (e, (if double then [.opened id] else []) ++
    (if e.selection ≠ before then [.selectionChanged] else []))

def pressConnector (e : Editor α) (exit : ExitId) : Editor α × List Action :=
  ({ e with selection := [], selectedExit := some exit },
    if e.selection.isEmpty then [] else [.selectionChanged])

def pressNothing (e : Editor α) (screen world : Point α) (additive : Bool) :
    Editor α × List Action :=
  let e := { e with lastClick := none }
  if additive then ({ e with gesture := .selecting world world e.selection }, [])
  else
    ({ e.clearSelection with gesture := .panning screen },
      if e.selection.isEmpty then [] else [.selectionChanged])

/-- The press that ends linking. One on the node itself is passed over. -/
def finishLinking (e : Editor α) (exit : ExitId) (world : Point α) (button : Button) :
    Editor α × List Action :=
  if button = .primary then
    match e.graph.nodeAt? world with
    | none => e.cancel
    | some n =>
      if n.id = exit.node then (e, [])
      else
        let e := { e with gesture := .idle }
        match e.graph.setLink exit.node exit.index n.id with
        | .ok (graph, _) => ({ e with graph }, [.linked exit n.id])
        | .error _ => (e, [.linkCancelled])
  else e.cancel

/-- A press of the primary button while no link is being made. -/
def pressPrimary (e : Editor α) (screen world : Point α) (additive : Bool) (time : Nat) :
    Editor α × List Action :=
  match e.hover with
  | some (.closeButton id) => e.removeNode id
  | some (.exit exit) => ({ e with gesture := .linking exit world }, [])
  | some (.body id) => e.pressBody id world additive time
  | some (.connector exit) => e.pressConnector exit
  | none => e.pressNothing screen world additive

def press (e : Editor α) (screen : Point α) (button : Button) (additive : Bool) (time : Nat) :
    Editor α × List Action :=
  let e := { e with pointer := some screen, hover := e.hitAt screen }
  let world := e.viewport.toWorld screen
  match e.gesture with
  | .linking exit _ => e.finishLinking exit world button
  | _ => match button with
    | .primary => e.pressPrimary screen world additive time
    | .middle => ({ e with gesture := .panning screen }, [])
    | .other => (e, [])

/-! ### Move and release -/

/-- Where a dragged node is when the pointer is at `world`. -/
def dragged (start anchor world : Point α) : Point α := start + (world - anchor)

/-- Moves dragged nodes along with the pointer. -/
def dragTo (g : Graph α) (anchor world : Point α) (starts : List (NodeId × Point α)) : Graph α :=
  starts.foldl (fun g (id, start) => g.moveNode id (dragged start anchor world)) g

def move (e : Editor α) (screen : Point α) : Editor α :=
  let e := { e with pointer := some screen }
  let world := e.viewport.toWorld screen
  match e.gesture with
  | .idle => { e with hover := e.hitAt screen }
  | .panning last =>
    { e with gesture := .panning screen, viewport := e.viewport.pan (screen - last) }
  | .dragging anchor starts => { e with graph := dragTo e.graph anchor world starts }
  | .selecting start _ base =>
    { e with gesture := .selecting start world base,
             selection := rectSelection e.graph start world base }
  | .linking exit _ => { e with gesture := .linking exit world, hover := e.hitAt screen }

/-- Drops dragged nodes, on the grid if need be, and lists the ids of the moved ones. -/
def drop (s : Settings α) (anchor world : Point α) :
    List (NodeId × Point α) → Graph α → Graph α × List NodeId
  | [], g => (g, [])
  | (id, start) :: rest, g =>
    if g.contains id then
      let place := s.snap (dragged start anchor world)
      let (g, moved) := drop s anchor world rest (g.moveNode id place)
      (g, if place == start then moved else id :: moved)
    else drop s anchor world rest g

def release (e : Editor α) (screen : Point α) : Editor α × List Action :=
  let e := { e with pointer := some screen }
  let world := e.viewport.toWorld screen
  match e.gesture with
  | .panning _ => ({ e with gesture := .idle }, [])
  | .dragging anchor starts =>
    let (graph, moved) := drop e.settings anchor world starts e.graph
    ({ e with graph, gesture := .idle }, if moved.isEmpty then [] else [.moved moved])
  | .selecting start _ base =>
    ({ e with gesture := .idle, selection := rectSelection e.graph start world base },
      [.selectionChanged])
  | .linking .. | .idle => (e, [])

/-! ### Wheel and keys -/

/-- Zooms one step, in for positive amounts and out for others. -/
def scroll (e : Editor α) (screen : Point α) (delta : α) : Editor α :=
  if delta == 0.0 then e
  else
    let factor := if 0.0 < delta then e.settings.zoomStep else 1.0 / e.settings.zoomStep
    { e with viewport := (e.viewport.zoomAt screen factor).1 }

def pressKey (e : Editor α) (key : Key) : Editor α × List Action :=
  match key with
  | .escape =>
    if e.gesture.isIdle then
      if e.selection.isEmpty && e.selectedExit.isNone then (e, [])
      else (e.clearSelection, [.selectionChanged])
    else e.cancel
  | .delete | .backspace => if e.gesture.isIdle then e.deleteSelected else (e, [])
  | .other => (e, [])

/-- Handles an event and reports what was done. -/
def handle (e : Editor α) : Event α → Editor α × List Action
  | .press screen button modifiers time => e.press screen button modifiers.isAdditive time
  | .move screen => (e.move screen, [])
  | .release screen => e.release screen
  | .wheel screen delta => (e.scroll screen delta, [])
  | .key key => e.pressKey key
  | .resize size => ({ e with viewport := { e.viewport with canvas := size } }, [])

end Editor

end EventGraph
