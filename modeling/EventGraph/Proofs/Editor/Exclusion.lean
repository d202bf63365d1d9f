import EventGraph.Proofs.Editor.Operation
import Mathlib.Data.List.Induction

/-!
# Nodes or a connector

Either nodes or a connector should be selected, not both. All events but those of a rectangle
gesture keep them apart: what the rectangle selects comes to a connector that is selected, and
the deletion of the selection then takes the connector.
-/

namespace EventGraph.Editor

variable {α : Type} {e : Editor α}

/-- Not both nodes and a connector are selected. -/
def Exclusive (e : Editor α) : Prop := e.selection = [] ∨ e.selectedExit = none

/-- The nodes that a rectangle gesture selects, or goes back to, on an event. -/
def rectSelected [Metric α] (e : Editor α) : Event α → Selection
  | .move screen | .release screen => match e.gesture with
    | .selecting start _ base => rectSelection e.graph start (e.viewport.toWorld screen) base
    | _ => []
  | .key .escape => match e.gesture with
    | .selecting _ _ base => base
    | _ => []
  | _ => []

/-! ### Edits -/

theorem exclusive_removeNode (h : Exclusive e) (id : NodeId) : Exclusive (e.removeNode id).1 := by
  have hexit (p : ExitId → Bool) (hnone : e.selectedExit = none) :
      e.selectedExit.filter p = none := by rw [hnone, Option.filter_none]
  simp only [removeNode]
  split
  · exact h.imp_right (hexit _)
  · refine h.imp (fun hempty => ?_) (hexit _)
    change e.selection.remove id = []
    rw [hempty]
    rfl

theorem exclusive_removeNodes (h : Exclusive e) (ids : List NodeId) :
    Exclusive (e.removeNodes ids).1 := by
  induction ids generalizing e with
  | nil => exact h
  | cons id rest ih => exact ih (exclusive_removeNode h id)

theorem exclusive_deleteSelected (h : Exclusive e) : Exclusive e.deleteSelected.1 := by
  unfold deleteSelected
  split
  · exact exclusive_removeNodes h e.selection
  · simp only
    split <;> exact .inr rfl

/-! ### Events -/

theorem exclusive_pressBody (e : Editor α) (id : NodeId) (world : Point α) (additive : Bool)
    (time : Nat) : Exclusive (e.pressBody id world additive time).1 := by
  have hdrag (e' : Editor α) (h : e'.selectedExit = none) :
      (if e'.isSelected id then
        { e' with gesture := .dragging world e'.startPositions } else e').selectedExit = none := by
    split <;> exact h
  exact .inr (hdrag _ rfl)

theorem exclusive_pressConnector (e : Editor α) (exit : ExitId) :
    Exclusive (e.pressConnector exit).1 := .inl rfl

theorem exclusive_pressNothing (h : Exclusive e) (screen world : Point α) (additive : Bool) :
    Exclusive (e.pressNothing screen world additive).1 := by
  simp only [pressNothing]
  split
  · exact h
  · exact .inl rfl

theorem exclusive_pressPrimary (h : Exclusive e) (screen world : Point α) (additive : Bool)
    (time : Nat) : Exclusive (e.pressPrimary screen world additive time).1 := by
  unfold pressPrimary
  split
  · exact exclusive_removeNode h _
  · exact h
  · exact exclusive_pressBody e _ world additive time
  · exact exclusive_pressConnector e _
  · exact exclusive_pressNothing h screen world additive

variable [Metric α]

/-- Where no rectangle selects nodes, an event has to keep the selections apart. -/
theorem exclusive_iff_of_rectSelected {e' : Editor α} {event : Event α} (h : Exclusive e')
    (hrect : e.rectSelected event = []) :
    Exclusive e' ↔ e.rectSelected event = [] ∨ e.selectedExit = none :=
  iff_of_true h (.inl hrect)

theorem exclusive_cancel_iff (h : Exclusive e) :
    Exclusive e.cancel.1 ↔ e.rectSelected (.key .escape) = [] ∨ e.selectedExit = none := by
  cases hgesture : e.gesture with
  | selecting start current base =>
    simp only [cancel, rectSelected, hgesture]
    exact Iff.rfl
  | idle | panning | dragging | linking =>
    simp only [cancel, rectSelected, hgesture]
    exact iff_of_true h (.inl trivial)

theorem exclusive_finishLinking (h : Exclusive e) {exit : ExitId} {cursor : Point α}
    (hgesture : e.gesture = .linking exit cursor) (world : Point α) (button : Button) :
    Exclusive (e.finishLinking exit world button).1 := by
  have hcancel : Exclusive e.cancel.1 := by
    refine (exclusive_cancel_iff h).mpr (.inl ?_)
    simp only [rectSelected, hgesture]
  unfold finishLinking
  split
  · split
    · exact hcancel
    · split
      · exact h
      · simp only
        split <;> exact h
  · exact hcancel

theorem exclusive_press (h : Exclusive e) (screen : Point α) (button : Button)
    (additive : Bool) (time : Nat) : Exclusive (e.press screen button additive time).1 := by
  have hhit : Exclusive { e with pointer := some screen, hover := e.hitAt screen } := h
  simp only [press]
  split
  · rename_i hgesture
    exact exclusive_finishLinking hhit hgesture _ button
  · cases button with
    | primary => exact exclusive_pressPrimary hhit screen _ additive time
    | middle | other => exact h

theorem exclusive_move_iff (h : Exclusive e) (screen : Point α) :
    Exclusive (e.move screen) ↔ e.rectSelected (.move screen) = [] ∨ e.selectedExit = none := by
  cases hgesture : e.gesture with
  | selecting start current base =>
    simp only [move, rectSelected, hgesture]
    exact Iff.rfl
  | idle | panning | dragging | linking =>
    simp only [move, rectSelected, hgesture]
    exact iff_of_true h (.inl trivial)

theorem exclusive_release_iff (h : Exclusive e) (screen : Point α) :
    Exclusive (e.release screen).1 ↔
      e.rectSelected (.release screen) = [] ∨ e.selectedExit = none := by
  cases hgesture : e.gesture with
  | selecting start current base =>
    simp only [release, rectSelected, hgesture]
    exact Iff.rfl
  | idle | panning | dragging | linking =>
    simp only [release, rectSelected, hgesture]
    exact iff_of_true h (.inl trivial)

theorem exclusive_pressKey_iff (h : Exclusive e) (key : Key) :
    Exclusive (e.pressKey key).1 ↔ e.rectSelected (.key key) = [] ∨ e.selectedExit = none := by
  cases key with
  | escape =>
    simp only [pressKey]
    split
    · rename_i hidle
      have hrect : e.rectSelected (.key .escape) = [] := by
        cases hgesture : e.gesture <;> simp_all [Gesture.isIdle, rectSelected]
      split
      · exact exclusive_iff_of_rectSelected h hrect
      · exact exclusive_iff_of_rectSelected (.inl rfl) hrect
    · exact exclusive_cancel_iff h
  | delete | backspace =>
    refine exclusive_iff_of_rectSelected ?_ rfl
    simp only [pressKey]
    split
    · exact exclusive_deleteSelected h
    · exact h
  | other => exact exclusive_iff_of_rectSelected h rfl

/-- An event leaves nodes and a connector selected together just where a rectangle gesture
selects nodes beside a connector. -/
theorem exclusive_handle_iff (h : Exclusive e) (event : Event α) :
    Exclusive (e.handle event).1 ↔ e.rectSelected event = [] ∨ e.selectedExit = none := by
  cases event with
  | press screen button modifiers time =>
    exact exclusive_iff_of_rectSelected
      (exclusive_press h screen button modifiers.isAdditive time) rfl
  | move screen => exact exclusive_move_iff h screen
  | release screen => exact exclusive_release_iff h screen
  | wheel screen delta =>
    refine exclusive_iff_of_rectSelected ?_ rfl
    simp only [handle, scroll]
    split <;> exact h
  | key key => exact exclusive_pressKey_iff h key
  | resize size => exact exclusive_iff_of_rectSelected h rfl

/-- **However a fresh editor is used, nodes and a connector are never selected together as
long as, and only as long as, no rectangle gesture selects nodes while a connector is
selected.** -/
theorem exclusive_throughout_iff (settings : Settings α) (g : Graph α)
    (events : List (Event α)) :
    (∀ early, early <+: events → Exclusive ((ofGraph settings g).after early)) ↔
      ∀ early event, early ++ [event] <+: events →
        ((ofGraph settings g).after early).rectSelected event = [] ∨
          ((ofGraph settings g).after early).selectedExit = none := by
  constructor
  · intro h early event hprefix
    have hearly := h early ((List.prefix_append early [event]).trans hprefix)
    have hlater := h _ hprefix
    rw [after_concat] at hlater
    exact (exclusive_handle_iff hearly event).mp hlater
  · intro h early hprefix
    induction early using List.reverseRecOn with
    | nil => exact .inl rfl
    | append_singleton early event ih =>
      have hearly := ih ((List.prefix_append early [event]).trans hprefix)
      rw [after_concat]
      exact (exclusive_handle_iff hearly event).mpr (h early event hprefix)

/-- Two nodes side by side, the first of which leads to the second. -/
def bridge : Editor Float32 := .ofGraph .default { nodes := [
  .create "west" (.exec { next := some "east" }),
  (Node.create "east" .terminal).moveTo ⟨400.0, 0.0⟩] }

/-- A click on the connector between them, and a rectangle drawn over the first node. -/
def crossing : List (Event Float32) := [
  .press ⟨700.0, 324.0⟩ .primary {} 0,
  .press ⟨390.0, 290.0⟩ .primary { shift := true } 0,
  .move ⟨410.0, 310.0⟩]

/-- The rectangle selects the node, and the connector is still selected. -/
theorem not_exclusive_crossing : ¬ Exclusive (bridge.after crossing) := by
  have hboth : (bridge.after crossing).selection = ["west"] ∧
      (bridge.after crossing).selectedExit = some ⟨"west", 0⟩ := by decide +kernel
  rintro (hempty | hnone)
  · rw [hboth.1] at hempty
    cases hempty
  · rw [hboth.2] at hnone
    cases hnone

end EventGraph.Editor
