import EventGraph.Proofs.Editor.Operation

/-!
# References of an editor

Every node that an editor holds by its id, wherever it does, is a node of its graph.
-/

namespace EventGraph

/-! ### Ids of selections and gestures -/

namespace Selection

variable {s : Selection} {id other : NodeId}

theorem mem_add : id ∈ s.add other ↔ id ∈ s ∨ id = other := by
  unfold add
  split
  · rename_i hmem
    constructor
    · exact .inl
    · rintro (h | rfl)
      · exact h
      · exact hmem
  · simp

theorem mem_remove : id ∈ s.remove other ↔ id ∈ s ∧ id ≠ other := by
  simp [remove]

theorem mem_or_eq_of_mem_toggle (h : id ∈ s.toggle other) : id ∈ s ∨ id = other := by
  unfold toggle at h
  split at h
  · exact .inl (mem_remove.mp h).1
  · simpa using h

theorem mem_foldl_add {ids : List NodeId} :
    id ∈ ids.foldl Selection.add s ↔ id ∈ s ∨ id ∈ ids := by
  induction ids generalizing s with
  | nil => simp
  | cons first rest ih => rw [List.foldl_cons, ih, mem_add, List.mem_cons, or_assoc]

end Selection

/-- The ids of the nodes that a gesture goes on with or comes back to. -/
def Gesture.references {α : Type} : Gesture α → List NodeId
  | idle | panning _ => []
  | dragging _ starts => starts.map (·.1)
  | selecting _ _ base => base
  | linking exit _ => [exit.node]

theorem Gesture.mem_references_forget {α : Type} {gesture : Gesture α} {id forgotten : NodeId}
    (h : id ∈ (gesture.forget forgotten).references) :
    id ∈ gesture.references ∧ id ≠ forgotten := by
  cases gesture with
  | idle | panning last => cases h
  | dragging anchor starts =>
    obtain ⟨start, hstart, rfl⟩ := List.mem_map.mp h
    obtain ⟨hmem, hne⟩ := List.mem_filter.mp hstart
    exact ⟨List.mem_map_of_mem hmem, of_decide_eq_true hne⟩
  | selecting start current base => exact Selection.mem_remove.mp h
  | linking exit cursor =>
    by_cases hne : exit.node = forgotten
    · simp [forget, hne, references] at h
    · rw [forget, if_neg hne] at h
      obtain rfl := List.mem_singleton.mp h
      exact ⟨List.mem_singleton_self _, hne⟩

namespace Editor

variable {α : Type} {e : Editor α}

theorem mem_of_mem_rectSelection [Metric α] {g : Graph α} {a b : Point α} {base : Selection}
    {id : NodeId} (h : id ∈ rectSelection g a b base) : id ∈ base ∨ id ∈ g.ids := by
  refine (Selection.mem_foldl_add.mp h).imp_right fun hmem => ?_
  obtain ⟨n, hn, rfl⟩ := List.mem_map.mp hmem
  exact List.mem_map_of_mem (List.mem_filter.mp hn).1

theorem mem_selection_of_mem_startPositions [Metric α] {start : NodeId × Point α}
    (h : start ∈ e.startPositions) : start.1 ∈ e.selection := by
  obtain ⟨id, hid, hstart⟩ := List.mem_filterMap.mp h
  obtain ⟨n, _, rfl⟩ := Option.map_eq_some_iff.mp hstart
  exact hid

/-- Every id that an editor holds is that of a node of its graph. -/
structure Anchored (e : Editor α) : Prop where
  selection : ∀ id ∈ e.selection, id ∈ e.graph.ids
  selectedExit : ∀ exit ∈ e.selectedExit, exit.node ∈ e.graph.ids
  hover : ∀ hit ∈ e.hover, hit.owner ∈ e.graph.ids
  lastClick : ∀ click ∈ e.lastClick, click.node ∈ e.graph.ids
  gesture : ∀ id ∈ e.gesture.references, id ∈ e.graph.ids

namespace Anchored

theorem ofGraph [Scalar α] (settings : Settings α) (g : Graph α) :
    Anchored (Editor.ofGraph settings g) where
  selection _ h := absurd h List.not_mem_nil
  selectedExit _ h := nomatch h
  hover _ h := nomatch h
  lastClick _ h := nomatch h
  gesture _ h := absurd h List.not_mem_nil

/-- A graph with the same ids takes the place of the graph. -/
theorem withGraph {g : Graph α} (h : Anchored e) (hids : g.ids = e.graph.ids) :
    Anchored { e with graph := g } where
  selection id hid := hids ▸ h.selection id hid
  selectedExit exit hexit := hids ▸ h.selectedExit exit hexit
  hover hit hhit := hids ▸ h.hover hit hhit
  lastClick click hclick := hids ▸ h.lastClick click hclick
  gesture id hid := hids ▸ h.gesture id hid

theorem mem_of_mem_references {gesture : Gesture α} (h : Anchored e)
    (hgesture : e.gesture = gesture) : ∀ id ∈ gesture.references, id ∈ e.graph.ids :=
  hgesture ▸ h.gesture

theorem withGesture {gesture : Gesture α} (h : Anchored e)
    (hgesture : ∀ id ∈ gesture.references, id ∈ e.graph.ids) :
    Anchored { e with gesture } :=
  { h with gesture := hgesture }

theorem withIdle (h : Anchored e) : Anchored { e with gesture := .idle } :=
  h.withGesture fun _ hid => absurd hid List.not_mem_nil

theorem withSelection {selection : Selection} (h : Anchored e)
    (hselection : ∀ id ∈ selection, id ∈ e.graph.ids) : Anchored { e with selection } :=
  { h with selection := hselection }

theorem withoutExit (h : Anchored e) : Anchored { e with selectedExit := none } :=
  { h with selectedExit := fun _ hexit => nomatch hexit }

/-! ### Edits -/

theorem node_ne_of_not_touches {g : Graph α} {id : NodeId} {exit : ExitId}
    (h : (!touches g id exit) = true) : exit.node ≠ id := by
  rintro rfl
  simp [touches] at h

theorem removeNode (h : Anchored e) (id : NodeId) : Anchored (e.removeNode id).1 := by
  simp only [Editor.removeNode]
  split
  -- Nothing is removed, yet the selected connector may go.
  · refine { h with selectedExit := fun exit hexit => ?_ }
    exact h.selectedExit exit (Option.mem_filter_iff.mp hexit).1
  · rename_i g _ hremove
    have hkept {other : NodeId} (hmem : other ∈ e.graph.ids) (hne : other ≠ id) : other ∈ g.ids :=
      Graph.mem_ids_remove hremove hmem hne
    constructor
    case selection =>
      intro other hother
      obtain ⟨hmem, hne⟩ := Selection.mem_remove.mp hother
      exact hkept (h.selection other hmem) hne
    case selectedExit =>
      intro exit hexit
      obtain ⟨hmem, htouches⟩ := Option.mem_filter_iff.mp hexit
      exact hkept (h.selectedExit exit hmem) (node_ne_of_not_touches htouches)
    case hover =>
      intro hit hhit
      obtain ⟨hmem, hne⟩ := Option.mem_filter_iff.mp hhit
      exact hkept (h.hover hit hmem) (of_decide_eq_true hne)
    case lastClick =>
      intro click hclick
      obtain ⟨hmem, hne⟩ := Option.mem_filter_iff.mp hclick
      exact hkept (h.lastClick click hmem) (of_decide_eq_true hne)
    case gesture =>
      intro other hother
      obtain ⟨hmem, hne⟩ := Gesture.mem_references_forget hother
      exact hkept (h.gesture other hmem) hne

theorem removeNodes (h : Anchored e) (ids : List NodeId) : Anchored (e.removeNodes ids).1 := by
  induction ids generalizing e with
  | nil => exact h
  | cons id rest ih => exact ih (h.removeNode id)

theorem cancel (h : Anchored e) : Anchored e.cancel.1 := by
  unfold Editor.cancel
  split
  · exact h.withIdle
  · exact h.withIdle.withGraph (ids_restore _ _)
  · rename_i hgesture
    exact h.withIdle.withSelection (h.mem_of_mem_references hgesture)
  · exact h.withIdle
  · exact h.withIdle

theorem deleteSelected (h : Anchored e) : Anchored e.deleteSelected.1 := by
  unfold Editor.deleteSelected
  split
  · exact h.removeNodes e.selection
  · simp only
    split
    · rename_i hclear
      exact h.withoutExit.withGraph (Graph.ids_clearLink hclear)
    · rename_i hclear
      exact h.withoutExit.withGraph (Graph.ids_clearLink hclear)
    · exact h.withoutExit

theorem clearSelection (h : Anchored e) : Anchored e.clearSelection :=
  h.withoutExit.withSelection fun _ hid => absurd hid List.not_mem_nil

theorem selectNode {id : NodeId} (h : Anchored e) (hid : id ∈ e.graph.ids) (beside : Bool) :
    Anchored (e.selectNode id beside) := by
  refine h.withoutExit.withSelection fun other hother => ?_
  split at hother
  · rcases Selection.mem_add.mp hother with hmem | rfl
    · exact h.selection other hmem
    · exact hid
  · rw [List.mem_singleton.mp hother]
    exact hid

theorem toggleNode {id : NodeId} (h : Anchored e) (hid : id ∈ e.graph.ids) :
    Anchored (e.toggleNode id) := by
  refine h.withSelection fun other hother => ?_
  rcases Selection.mem_or_eq_of_mem_toggle hother with hmem | rfl
  · exact h.selection other hmem
  · exact hid

theorem beginLinking [Scalar α] {exit : ExitId} {e' : Editor α} (h : Anchored e)
    (hbegin : e.beginLinking exit = .ok e') : Anchored e' := by
  unfold Editor.beginLinking at hbegin
  split at hbegin
  · cases hbegin
  · rename_i n hn
    split at hbegin
    · cases hbegin
    · cases hbegin
      refine h.withGesture fun id hid => ?_
      rw [List.mem_singleton.mp hid]
      exact Graph.mem_ids_of_node? hn

/-! ### Events -/

theorem pressConnector {exit : ExitId} (h : Anchored e) (hexit : exit.node ∈ e.graph.ids) :
    Anchored (e.pressConnector exit).1 := by
  refine { h with
    selection := fun _ hid => absurd hid List.not_mem_nil, selectedExit := fun other hother => ?_ }
  cases hother
  exact hexit

theorem pressNothing (h : Anchored e) (screen world : Point α) (additive : Bool) :
    Anchored (e.pressNothing screen world additive).1 := by
  have hclick : Anchored { e with lastClick := none } :=
    { h with lastClick := fun _ hmem => nomatch hmem }
  simp only [Editor.pressNothing]
  split
  · exact hclick.withGesture h.selection
  · exact hclick.clearSelection.withGesture fun _ hid => absurd hid List.not_mem_nil

theorem pressKey (h : Anchored e) (key : Key) : Anchored (e.pressKey key).1 := by
  cases key with
  | escape =>
    simp only [Editor.pressKey]
    split
    · split
      · exact h
      · exact h.clearSelection
    · exact h.cancel
  | delete | backspace =>
    simp only [Editor.pressKey]
    split
    · exact h.deleteSelected
    · exact h
  | other => exact h

variable [Metric α]

theorem withHit (h : Anchored e) (screen : Point α) :
    Anchored { e with hover := e.hitAt screen } :=
  { h with hover := fun _ hhit => owner_mem_of_hitAt hhit }

/-- What a rectangle adds to its base are nodes of the graph. -/
theorem withRect {start current : Point α} {base : Selection} (h : Anchored e)
    (hgesture : e.gesture = .selecting start current base) (a b : Point α) :
    Anchored { e with selection := rectSelection e.graph a b base } :=
  h.withSelection fun id hid => (mem_of_mem_rectSelection hid).elim
    (h.mem_of_mem_references hgesture id) fun hmem => hmem

theorem pressBody {id : NodeId} (h : Anchored e) (hid : id ∈ e.graph.ids) (world : Point α)
    (additive : Bool) (time : Nat) : Anchored (e.pressBody id world additive time).1 := by
  -- A press notes the click, then selects, then drags what is selected by then.
  have hclick : Anchored
      { e with lastClick := if e.isDoubleClick id time then none else some ⟨id, time⟩ } := by
    refine { h with lastClick := fun click hmem => ?_ }
    split at hmem
    · cases hmem
    · cases hmem
      exact hid
  have hselect (e' : Editor α) (h' : Anchored e') (hid' : id ∈ e'.graph.ids) :
      Anchored (if additive then e'.toggleNode id
        else if e'.isSelected id then e' else e'.selectNode id false) := by
    split
    · exact h'.toggleNode hid'
    · split
      · exact h'
      · exact h'.selectNode hid' false
  have hdrag (e' : Editor α) (h' : Anchored e') :
      Anchored (if e'.isSelected id then
        { e' with gesture := .dragging world e'.startPositions } else e') := by
    split
    · refine h'.withGesture fun other hother => ?_
      obtain ⟨start, hstart, rfl⟩ := List.mem_map.mp hother
      exact h'.selection start.1 (mem_selection_of_mem_startPositions hstart)
    · exact h'
  exact hdrag _ (hselect _ hclick hid).withoutExit

theorem finishLinking (h : Anchored e) (exit : ExitId) (world : Point α) (button : Button) :
    Anchored (e.finishLinking exit world button).1 := by
  unfold Editor.finishLinking
  split
  · split
    · exact h.cancel
    · split
      · exact h
      · simp only
        split
        · rename_i hlink
          exact h.withIdle.withGraph (Graph.ids_setLink hlink)
        · exact h.withIdle
  · exact h.cancel

theorem pressPrimary (h : Anchored e) (screen world : Point α) (additive : Bool) (time : Nat) :
    Anchored (e.pressPrimary screen world additive time).1 := by
  unfold Editor.pressPrimary
  split
  · exact h.removeNode _
  · rename_i hhover
    refine h.withGesture fun id hid => ?_
    rw [List.mem_singleton.mp hid]
    exact h.hover _ hhover
  · rename_i hhover
    exact h.pressBody (h.hover _ hhover) world additive time
  · rename_i hhover
    exact h.pressConnector (h.hover _ hhover)
  · exact h.pressNothing screen world additive

theorem press (h : Anchored e) (screen : Point α) (button : Button) (additive : Bool)
    (time : Nat) : Anchored (e.press screen button additive time).1 := by
  have hhit : Anchored { e with pointer := some screen, hover := e.hitAt screen } :=
    { h.withHit screen with }
  simp only [Editor.press]
  split
  · exact hhit.finishLinking _ _ button
  · cases button with
    | primary => exact hhit.pressPrimary screen _ additive time
    | middle => exact hhit.withGesture fun _ hid => absurd hid List.not_mem_nil
    | other => exact hhit

theorem move (h : Anchored e) (screen : Point α) : Anchored (e.move screen) := by
  have hpointer : Anchored { e with pointer := some screen } := { h with }
  simp only [Editor.move]
  split
  · exact hpointer.withHit screen
  · exact { hpointer.withGesture fun _ hid => absurd hid List.not_mem_nil with }
  · exact hpointer.withGraph (ids_dragTo _ _ _ _)
  · rename_i hgesture
    have hbase := h.mem_of_mem_references hgesture
    exact { h.withRect hgesture _ _ with gesture := hbase }
  · rename_i hgesture
    have hsource := h.mem_of_mem_references hgesture
    exact { h.withHit screen with gesture := hsource }

theorem release (h : Anchored e) (screen : Point α) : Anchored (e.release screen).1 := by
  have hpointer : Anchored { e with pointer := some screen } := { h with }
  simp only [Editor.release]
  split
  · exact hpointer.withIdle
  · exact hpointer.withIdle.withGraph (ids_drop _ _ _ _ _)
  · rename_i hgesture
    exact { (h.withRect hgesture _ _).withIdle with }
  · exact hpointer
  · exact hpointer

theorem scroll (h : Anchored e) (screen : Point α) (delta : α) :
    Anchored (e.scroll screen delta) := by
  unfold Editor.scroll
  split
  · exact h
  · exact { h with }

theorem handle (h : Anchored e) (event : Event α) : Anchored (e.handle event).1 := by
  cases event with
  | press screen button modifiers time => exact h.press screen button modifiers.isAdditive time
  | move screen => exact h.move screen
  | release screen => exact h.release screen
  | wheel screen delta => exact h.scroll screen delta
  | key key => exact h.pressKey key
  | resize size => exact { h with }

/-- One operation, selecting a node of the graph if it selects one. -/
theorem perform (h : Anchored e) {op : Operation α} (hop : op.Admissible e.graph) :
    Anchored (e.perform op) := by
  cases op with
  | handle event => exact h.handle event
  | beginLinking exit =>
    simp only [Editor.perform]
    split
    · rename_i hbegin
      exact h.beginLinking hbegin
    · exact h
  | cancel => exact h.cancel
  | removeNode id => exact h.removeNode id
  | deleteSelected => exact h.deleteSelected
  | clearSelection => exact h.clearSelection
  | selectNode id beside => exact h.selectNode hop beside
  | toggleNode id => exact h.toggleNode hop

end Anchored

/-- **An editor that begins afresh and is used in any order holds no id but those of nodes of
its graph.** -/
theorem reachable_anchored [Metric α] (settings : Settings α) (g : Graph α)
    (h : Reachable (ofGraph settings g) e) : Anchored e :=
  h.invariant (.ofGraph settings g) fun _ _ hop he => he.perform hop

/-- Two nodes, one of which leads to the other. -/
def pair : Editor Float32 := .ofGraph .default { nodes := [
  .create "ask" (.exec { next := some "end" }), .create "end" .terminal] }

def pairSelected : Editor Float32 :=
  (pair.perform (.selectNode "end" false)).perform (.toggleNode "ask")

/-- Both nodes are selected and an exit of one is being linked when that one is removed. -/
def pairRemoved : Editor Float32 :=
  (pairSelected.perform (.beginLinking ⟨"ask", 0⟩)).perform (.removeNode "ask")

theorem anchored_pairRemoved :
    (pairSelected.perform (.beginLinking ⟨"ask", 0⟩)).gesture.references = ["ask"] ∧
    Reachable pair pairRemoved ∧ Anchored pairRemoved ∧ pairRemoved.graph.ids = ["end"] ∧
    pairRemoved.selection = ["end"] ∧ pairRemoved.gesture.references = [] := by
  have hend : "end" ∈ pair.graph.ids := by decide +kernel
  have hask : "ask" ∈ pair.graph.ids := by decide +kernel
  have hselected : Reachable pair pairSelected :=
    .perform (.toggleNode "ask") (.perform (.selectNode "end" false) .start hend) hask
  have hremoved : Reachable pair pairRemoved :=
    .perform (.removeNode "ask") (.perform (.beginLinking ⟨"ask", 0⟩) hselected trivial) trivial
  refine ⟨?_, hremoved, reachable_anchored _ _ hremoved, ?_, ?_, ?_⟩ <;> decide +kernel

end Editor

end EventGraph
