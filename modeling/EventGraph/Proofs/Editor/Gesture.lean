import EventGraph.Proofs.Editor.Placing

/-!
# Gestures under way

What a gesture would go back to if it were cancelled, and how a press begins one. A gesture that
has just begun goes back to what there is.
-/

namespace EventGraph

namespace Gesture

variable {α : Type}

/-- The nodes that are dragged, and where they were. -/
def starts : Gesture α → List (NodeId × Point α)
  | dragging _ starts => starts
  | idle | panning _ | selecting .. | linking .. => []

/-- The selection to go back to from `s`. -/
def base (s : Selection) : Gesture α → Selection
  | selecting _ _ base => base
  | idle | panning _ | dragging .. | linking .. => s

theorem isIdle_iff {gesture : Gesture α} : gesture.isIdle = true ↔ gesture = .idle := by
  cases gesture <;> simp [isIdle]

theorem isIdle_eq_false_iff {gesture : Gesture α} : gesture.isIdle = false ↔ gesture ≠ .idle := by
  rw [← Bool.not_eq_true, isIdle_iff]

theorem starts_forget (id : NodeId) (gesture : Gesture α) :
    (gesture.forget id).starts = gesture.starts.filter (·.1 ≠ id) := by
  cases gesture with
  | linking exit cursor =>
    rw [forget]
    split <;> rfl
  | idle | panning | dragging | selecting => rfl

end Gesture

namespace Editor

variable {α : Type} {e e' : Editor α}

/-- The graph to go back to: dragged nodes are where they were. -/
def rest (e : Editor α) : Graph α := restore e.graph e.gesture.starts

theorem rest_eq_graph (h : e.gesture.starts = []) : e.rest = e.graph := by
  rw [rest, h]
  rfl

theorem place?_rest (h : e.graph.DistinctIds) (id : NodeId) :
    e.rest.place? id = (e.graph.place? id).map (placeOf id e.gesture.starts) :=
  place?_restore h _ id

theorem graph_cancel (e : Editor α) : e.cancel.1.graph = e.rest := by
  cases hgesture : e.gesture with
  | idle | panning | dragging | selecting | linking =>
    simp only [cancel, rest, hgesture]
    rfl

theorem gesture_cancel (e : Editor α) : e.cancel.1.gesture = .idle := by
  cases hgesture : e.gesture with
  | idle | panning | dragging | selecting | linking => simp only [cancel, hgesture]

theorem selection_cancel (e : Editor α) : e.cancel.1.selection = e.gesture.base e.selection := by
  cases hgesture : e.gesture with
  | idle | panning | dragging | selecting | linking => simp only [cancel, hgesture, Gesture.base]

/-- What the gesture would go back to is there. -/
structure Outset (e : Editor α) : Prop where
  places : ∀ start ∈ e.gesture.starts, e.graph.place? start.1 = some start.2
  base : e.gesture.base e.selection = e.selection

theorem Outset.ofNone (hstarts : e.gesture.starts = [])
    (hbase : e.gesture.base e.selection = e.selection) : Outset e where
  places start hstart := by
    rw [hstarts] at hstart
    cases hstart
  base := hbase

theorem Outset.rest_eq_graph (h : Outset e) (hids : e.graph.DistinctIds) : e.rest = e.graph :=
  restore_eq_self hids h.places

/-- What a press makes of a graph and a gesture, where no link is being made. -/
inductive PressEffect (g : Graph α) (gesture : Gesture α) (e : Editor α) : Prop
  | kept (hgraph : e.graph = g) (hgesture : e.gesture = gesture)
  | begun (hgraph : e.graph = g) (houtset : Outset e)
  | removed (id : NodeId) (n : Node α) (hgraph : g.remove id = some (e.graph, n))
    (hgesture : e.gesture = gesture.forget id)

theorem removeNode_effect (e : Editor α) (id : NodeId) :
    PressEffect e.graph e.gesture (e.removeNode id).1 := by
  cases hremove : e.graph.remove id with
  | none =>
    simp only [removeNode, hremove]
    exact .kept rfl rfl
  | some removed =>
    simp only [removeNode, hremove]
    exact .removed id removed.2 hremove rfl

theorem place?_of_mem_startPositions {start : NodeId × Point α} (h : start ∈ e.startPositions) :
    e.graph.place? start.1 = some start.2 := by
  obtain ⟨id, -, hstart⟩ := List.mem_filterMap.mp h
  obtain ⟨n, hn, rfl⟩ := Option.map_eq_some_iff.mp hstart
  rw [Graph.place?, hn]
  rfl

/-- A press on a body selects, then drags what is selected by then or leaves the gesture. -/
theorem pressBody_cases (e : Editor α) (id : NodeId) (world : Point α) (additive : Bool)
    (time : Nat) : ∃ selection lastClick,
      let selected : Editor α := { e with selection, lastClick, selectedExit := none }
      (e.pressBody id world additive time).1 = selected ∨
        (e.pressBody id world additive time).1 =
          { selected with gesture := .dragging world selected.startPositions } := by
  have hselect (e' : Editor α) : ∃ selection, { (if additive then e'.toggleNode id
      else if e'.isSelected id then e' else e'.selectNode id false) with selectedExit := none } =
        { e' with selection, selectedExit := none } := by
    split
    · exact ⟨_, rfl⟩
    · split <;> exact ⟨_, rfl⟩
  have hdrag {e' selected : Editor α} (h : e' = selected) :
      let dragged := if e'.isSelected id then
        { e' with gesture := .dragging world e'.startPositions } else e'
      dragged = selected ∨
        dragged = { selected with gesture := .dragging world selected.startPositions } := by
    subst h
    split
    · exact .inr rfl
    · exact .inl rfl
  obtain ⟨selection, hselected⟩ := hselect
    { e with lastClick := if e.isDoubleClick id time then none else some ⟨id, time⟩ }
  exact ⟨selection, if e.isDoubleClick id time then none else some ⟨id, time⟩, hdrag hselected⟩

theorem pressBody_effect (e : Editor α) (id : NodeId) (world : Point α) (additive : Bool)
    (time : Nat) : PressEffect e.graph e.gesture (e.pressBody id world additive time).1 := by
  obtain ⟨selection, lastClick, hkept | hbegun⟩ := pressBody_cases e id world additive time
  · rw [hkept]
    exact .kept rfl rfl
  · rw [hbegun]
    exact .begun rfl ⟨fun _ hstart => place?_of_mem_startPositions hstart, rfl⟩

theorem pressNothing_effect (e : Editor α) (screen world : Point α) (additive : Bool) :
    PressEffect e.graph e.gesture (e.pressNothing screen world additive).1 := by
  simp only [pressNothing]
  split
  · exact .begun rfl (.ofNone rfl rfl)
  · exact .begun rfl (.ofNone rfl rfl)

theorem pressPrimary_effect (e : Editor α) (screen world : Point α) (additive : Bool)
    (time : Nat) : PressEffect e.graph e.gesture (e.pressPrimary screen world additive time).1 := by
  unfold pressPrimary
  split
  · exact removeNode_effect e _
  · exact .begun rfl (.ofNone rfl rfl)
  · exact pressBody_effect e _ world additive time
  · exact .kept rfl rfl
  · exact pressNothing_effect e screen world additive

/-- A press begins a gesture, removes a node or leaves both as they are. -/
theorem press_effect [Metric α] (hlink : ∀ exit cursor, e.gesture ≠ .linking exit cursor)
    (screen : Point α) (button : Button) (additive : Bool) (time : Nat) :
    PressEffect e.graph e.gesture (e.press screen button additive time).1 := by
  simp only [press]
  cases button with
  | primary =>
    exact pressPrimary_effect { e with pointer := some screen, hover := e.hitAt screen } screen
      (e.viewport.toWorld screen) additive time
  | middle => exact .begun rfl (.ofNone rfl rfl)
  | other => exact .kept rfl rfl

/-! ### Moves -/

section move

variable [Metric α]

@[simp] theorem ids_move (e : Editor α) (screen : Point α) :
    (e.move screen).graph.ids = e.graph.ids := by
  cases hgesture : e.gesture with
  | dragging anchor starts =>
    simp only [move, hgesture]
    exact ids_dragTo _ _ _ _
  | idle | panning | selecting | linking => simp only [move, hgesture]

/-- A drag goes back to where it began, not to where it came by. -/
theorem rest_move (h : e.graph.DistinctIds) (screen : Point α) :
    (e.move screen).rest = e.rest := by
  cases hgesture : e.gesture with
  | dragging anchor starts =>
    simp only [move, rest, hgesture, dragTo_eq_restore]
    refine restore_restore h fun id hid => ?_
    simpa [Gesture.starts] using hid
  | idle | panning | selecting | linking => simp only [move, rest, hgesture, Gesture.starts]

theorem base_move (e : Editor α) (screen : Point α) :
    (e.move screen).gesture.base (e.move screen).selection = e.gesture.base e.selection := by
  cases hgesture : e.gesture with
  | idle | panning | dragging | selecting | linking => simp only [move, hgesture, Gesture.base]

theorem isIdle_move (e : Editor α) (screen : Point α) :
    (e.move screen).gesture.isIdle = e.gesture.isIdle := by
  cases hgesture : e.gesture with
  | idle | panning | dragging | selecting | linking => simp only [move, hgesture, Gesture.isIdle]

end move

end Editor

end EventGraph
