import EventGraph.Proofs.Editor.Gesture

/-!
# Escape

A press begins a gesture; moves, the wheel, keys and new sizes carry it on. They change places, the
selection and the view, yet not what the gesture goes back to, which is how things were at the
press.
-/

namespace EventGraph

/-- Events that neither begin nor end a gesture. -/
def Event.CarriesOn {α : Type} : Event α → Prop
  | move _ | wheel .. | resize _ => True
  | key k => k ≠ .escape
  | press .. | release _ => False

namespace Editor

variable {α : Type} {e : Editor α} {g : Graph α} {s : Selection}

/-- A gesture is under way that goes back to a graph and a selection. -/
structure Underway (g : Graph α) (s : Selection) (e : Editor α) : Prop where
  distinct : e.graph.DistinctIds
  busy : e.gesture.isIdle = false
  graph : e.rest = g
  selection : e.gesture.base e.selection = s

/-- A gesture that a press begins goes back to the graph as it is and the nodes now selected. -/
theorem PressEffect.underway (h : PressEffect g .idle e) (hids : g.DistinctIds)
    (hbegun : e.gesture ≠ .idle) : Underway g e.selection e := by
  rcases h with ⟨-, hgesture⟩ | ⟨rfl, houtset⟩ | ⟨id, n, -, hgesture⟩
  · exact absurd hgesture hbegun
  · exact ⟨hids, Gesture.isIdle_eq_false_iff.mpr hbegun, houtset.rest_eq_graph hids, houtset.base⟩
  · exact absurd hgesture hbegun

namespace Underway

/-- Keys other than Escape have no effect on a gesture. -/
theorem pressKey (h : Underway g s e) {key : Key} (hkey : key ≠ .escape) :
    Underway g s (e.pressKey key).1 := by
  cases key with
  | escape => exact absurd rfl hkey
  | delete | backspace =>
    simp only [Editor.pressKey, h.busy, Bool.false_eq_true, if_false]
    exact h
  | other => exact h

theorem cancel (h : Underway g s e) :
    e.cancel.1.graph = g ∧ e.cancel.1.gesture = .idle ∧ e.cancel.1.selection = s :=
  ⟨(graph_cancel e).trans h.graph, gesture_cancel e, (selection_cancel e).trans h.selection⟩

variable [Metric α]

theorem move (h : Underway g s e) (screen : Point α) : Underway g s (e.move screen) where
  distinct := by
    rw [Graph.DistinctIds, ids_move]
    exact h.distinct
  busy := (isIdle_move e screen).trans h.busy
  graph := (rest_move h.distinct screen).trans h.graph
  selection := (base_move e screen).trans h.selection

theorem scroll (h : Underway g s e) (screen : Point α) (delta : α) :
    Underway g s (e.scroll screen delta) := by
  unfold Editor.scroll
  split
  · exact h
  · exact { h with }

theorem handle (h : Underway g s e) {event : Event α} (hevent : event.CarriesOn) :
    Underway g s (e.handle event).1 := by
  cases event with
  | press screen button modifiers time => cases hevent
  | move screen => exact h.move screen
  | release screen => cases hevent
  | wheel screen delta => exact h.scroll screen delta
  | key key => exact h.pressKey hevent
  | resize size => exact { h with }

theorem after (h : Underway g s e) {events : List (Event α)}
    (hevents : ∀ event ∈ events, event.CarriesOn) : Underway g s (e.after events) := by
  induction events generalizing e with
  | nil => exact h
  | cons event rest ih =>
    rw [List.forall_mem_cons] at hevents
    exact ih (h.handle hevents.1) hevents.2

theorem handle_escape (h : Underway g s e) : e.handle (.key .escape) = e.cancel := by
  simp only [Editor.handle, Editor.pressKey, h.busy, Bool.false_eq_true, if_false]

end Underway

variable [Metric α]

/-- **Escape takes a gesture back: however it was carried on, the graph is the one from before the
press that began it, and the nodes are selected that were selected right after that press.** -/
theorem escape_takes_back {pressed : Editor α} (hids : e.graph.DistinctIds)
    (hidle : e.gesture = .idle) {screen : Point α} {button : Button} {modifiers : Modifiers}
    {time : Nat} (hpress : (e.handle (.press screen button modifiers time)).1 = pressed)
    (hbegun : pressed.gesture ≠ .idle) {events : List (Event α)}
    (hevents : ∀ event ∈ events, event.CarriesOn) :
    (pressed.after (events ++ [.key .escape])).graph = e.graph ∧
      (pressed.after (events ++ [.key .escape])).gesture = .idle ∧
      (pressed.after (events ++ [.key .escape])).selection = pressed.selection := by
  have hlink : ∀ exit cursor, e.gesture ≠ .linking exit cursor := by simp [hidle]
  have hpressed : Underway e.graph pressed.selection pressed := by
    have heffect := press_effect hlink screen button modifiers.isAdditive time
    rw [hidle] at heffect
    subst hpress
    exact heffect.underway hids hbegun
  have hafter := hpressed.after hevents
  rw [after_concat, hafter.handle_escape]
  exact hafter.cancel

/-- One node. -/
def lone : Editor Float32 := .ofGraph .default { nodes := [.create "end" .terminal] }

/-- A press on the node. -/
def lonePressed : Editor Float32 := (lone.handle (.press ⟨450.0, 320.0⟩ .primary {} 0)).1

/-- The node is dragged, the view zoomed and the deletion of the node asked for. -/
def swing : List (Event Float32) :=
  [.move ⟨550.0, 420.0⟩, .wheel ⟨550.0, 420.0⟩ 1.0, .key .delete, .move ⟨300.0, 400.0⟩]

theorem escape_takes_back_swing :
    (lonePressed.after (swing.take 1)).graph.place? "end" = some ⟨100.0, 100.0⟩ ∧
      lone.graph.place? "end" = some ⟨0.0, 0.0⟩ ∧
      (lonePressed.after (swing ++ [.key .escape])).graph = lone.graph ∧
      (lonePressed.after (swing ++ [.key .escape])).gesture = .idle ∧
      (lonePressed.after (swing ++ [.key .escape])).selection = ["end"] := by
  have hids : lone.graph.DistinctIds := by
    unfold Graph.DistinctIds
    decide +kernel
  have hidle : lone.gesture = .idle := rfl
  have hpress : (lone.handle (.press ⟨450.0, 320.0⟩ .primary {} 0)).1 = lonePressed := rfl
  have hbegun : lonePressed.gesture ≠ .idle :=
    Gesture.isIdle_eq_false_iff.mp (by decide +kernel)
  have hevents : ∀ event ∈ swing, event.CarriesOn := by simp [swing, Event.CarriesOn]
  have hselection : lonePressed.selection = ["end"] := by decide +kernel
  obtain ⟨hgraph, hgesture, hback⟩ := escape_takes_back hids hidle hpress hbegun hevents
  exact ⟨by decide +kernel, by decide +kernel, hgraph, hgesture, hback.trans hselection⟩

end Editor

end EventGraph
