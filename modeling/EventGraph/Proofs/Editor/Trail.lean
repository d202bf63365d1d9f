import EventGraph.Proofs.Editor.Escape

/-!
# The trail of the pointer

A drag and a rectangle selection reach from where they began to where the pointer is. On the way
the pointer moves nodes and selects some, yet all of that follows from how things were at the
press, so that the release leaves nothing of the way the pointer took.
-/

namespace EventGraph

/-- Gestures that reach from where they began to the pointer. -/
def Gesture.isSpan {α : Type} : Gesture α → Bool
  | dragging .. | selecting .. => true
  | idle | panning _ | linking .. => false

namespace Editor

variable {α : Type} [Metric α] {e : Editor α}

theorem drop_dragTo_graph {g : Graph α} (h : g.DistinctIds) (s : Settings α)
    (anchor world later : Point α) (starts : List (NodeId × Point α)) :
    (drop s anchor later starts (dragTo g anchor world starts)).1 =
      (drop s anchor later starts g).1 := by
  rw [drop_eq_restore, drop_eq_restore, dragTo_eq_restore]
  refine restore_restore h fun id hid => ?_
  simpa using hid

/-- Which nodes count as moved follows from where they started and which of them there are. -/
theorem drop_report_congr {g g' : Graph α} (h : g.ids = g'.ids) (s : Settings α)
    (anchor world : Point α) (starts : List (NodeId × Point α)) :
    (drop s anchor world starts g).2 = (drop s anchor world starts g').2 := by
  induction starts generalizing g g' with
  | nil => rfl
  | cons start rest ih =>
    have hcontains : g.contains start.1 = g'.contains start.1 := by
      rw [Bool.eq_iff_iff, Graph.contains_iff, Graph.contains_iff, h]
    unfold drop
    rw [hcontains]
    split
    · have hids : (g.moveNode start.1 (s.snap (dragged start.2 anchor world))).ids =
          (g'.moveNode start.1 (s.snap (dragged start.2 anchor world))).ids := by
        rw [Graph.ids_moveNode, Graph.ids_moveNode, h]
      simp only [ih hids]
    · exact ih h

theorem drop_dragTo {g : Graph α} (h : g.DistinctIds) (s : Settings α)
    (anchor world later : Point α) (starts : List (NodeId × Point α)) :
    drop s anchor later starts (dragTo g anchor world starts) = drop s anchor later starts g :=
  Prod.ext (drop_dragTo_graph h s anchor world later starts)
    (drop_report_congr (ids_dragTo g anchor world starts) s anchor later starts)

theorem isSpan_move (e : Editor α) (screen : Point α) :
    (e.move screen).gesture.isSpan = e.gesture.isSpan := by
  cases hgesture : e.gesture with
  | idle | panning | dragging | selecting | linking => simp only [move, hgesture, Gesture.isSpan]

/-- One move on the way leaves no trace. -/
theorem release_move (hids : e.graph.DistinctIds) (hspan : e.gesture.isSpan = true)
    (between screen : Point α) : (e.move between).release screen = e.release screen := by
  cases hgesture : e.gesture with
  | dragging anchor starts =>
    simp only [move, release, hgesture, drop_dragTo hids]
  | selecting start current base => simp only [move, release, hgesture]
  | idle | panning | linking =>
    rw [hgesture] at hspan
    cases hspan

/-- **The way of the pointer does not matter: where a drag or a rectangle selection is released,
the editor, the graph and what is reported are as if the pointer had been there at once.** -/
theorem release_after_moves (hids : e.graph.DistinctIds) (hspan : e.gesture.isSpan = true)
    (trail : List (Point α)) (screen : Point α) :
    (e.after (trail.map .move)).handle (.release screen) = e.handle (.release screen) := by
  induction trail generalizing e with
  | nil => rfl
  | cons first rest ih =>
    have hids' : (e.move first).graph.DistinctIds := by
      rw [Graph.DistinctIds, ids_move]
      exact hids
    have hspan' : (e.move first).gesture.isSpan = true := (isSpan_move e first).trans hspan
    calc ((e.move first).after (rest.map .move)).handle (.release screen)
        = (e.move first).handle (.release screen) := ih hids' hspan'
      _ = e.handle (.release screen) := release_move hids hspan first screen

/-- Two places the pointer comes by while it drags the node. -/
def detour : List (Point Float32) := [⟨550.0, 420.0⟩, ⟨-1.0e30, 0.1⟩]

theorem release_after_moves_detour :
    ((lonePressed.after (detour.map .move)).graph.place? "end").isSome = true ∧
      (lonePressed.after (detour.map .move)).graph.place? "end" ≠ some ⟨20.0, 10.0⟩ ∧
      (lonePressed.handle (.release ⟨470.0, 330.0⟩)).1.graph.place? "end" = some ⟨20.0, 10.0⟩ ∧
      (lonePressed.handle (.release ⟨470.0, 330.0⟩)).2 = [.moved ["end"]] ∧
      (lonePressed.after (detour.map .move)).handle (.release ⟨470.0, 330.0⟩) =
        lonePressed.handle (.release ⟨470.0, 330.0⟩) := by
  have hids : lonePressed.graph.DistinctIds := by
    unfold Graph.DistinctIds
    decide +kernel
  have hspan : lonePressed.gesture.isSpan = true := by decide +kernel
  exact ⟨by decide +kernel, by decide +kernel, by decide +kernel, by decide +kernel,
    release_after_moves hids hspan detour ⟨470.0, 330.0⟩⟩

end Editor

end EventGraph
