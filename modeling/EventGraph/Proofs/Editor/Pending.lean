import EventGraph.Proofs.Editor.Gesture
import EventGraph.Proofs.Editor.References

/-!
# Pending links

An editor holds exits in two places: the exit that a link is being made from and the exit of the
selected connector. However the graph is edited, the first is an exit of the graph and the second
one that leads to a node of it, so that neither edit they ask for can fail.
-/

namespace EventGraph

namespace Graph

variable {α : Type} {g g' : Graph α} {exit other : ExitId} {n : Node α}

/-- The exit is one of a node of the graph. -/
def HasExit (g : Graph α) (exit : ExitId) : Prop :=
  ∃ target, g.target? exit.node exit.index = some target

/-- The exit leads to a node of the graph. -/
def HasLink (g : Graph α) (exit : ExitId) : Prop :=
  ∃ id ∈ g.ids, g.target? exit.node exit.index = some (some id)

theorem hasExit_of_mem (hids : g.DistinctIds) (hn : n ∈ g.nodes) {index : Nat}
    (hindex : index < n.body.exitCount) : g.HasExit ⟨n.id, index⟩ := by
  have hlength : index < n.body.exits.length := by rwa [Body.length_exits]
  exact ⟨_, target?_eq_some_iff.mpr ⟨n, node?_of_mem hids hn, List.getElem?_eq_getElem hlength⟩⟩

/-- A connector that is drawn to its end is that of a link. -/
theorem hasLink_of_mem_connectors [Scalar α] (hids : g.DistinctIds) {c : Connector α}
    (hc : c ∈ g.connectors) (hstop : c.stop.isSome) : g.HasLink c.exit := by
  obtain ⟨n, hn, hc⟩ := List.mem_flatMap.mp hc
  obtain ⟨index, hindex, rfl⟩ := List.mem_mapIdx.mp hc
  have hexit : index < n.body.exits.length := by
    rw [List.length_zip] at hindex
    omega
  obtain ⟨stop, hstop⟩ := Option.isSome_iff_exists.mp hstop
  obtain ⟨m, hm, -⟩ := Option.map_eq_some_iff.mp hstop
  obtain ⟨id, hid, hm⟩ := Option.bind_eq_some_iff.mp hm
  rw [List.get_eq_getElem, List.getElem_zip] at hid
  refine ⟨id, mem_ids_of_node? hm, target?_eq_some_iff.mpr ⟨n, node?_of_mem hids hn, ?_⟩⟩
  exact (List.getElem?_eq_getElem hexit).trans (congrArg some hid)

/-! ### Edits -/

theorem HasExit.setExit (h : g.HasExit other) {target previous : Option NodeId}
    (hset : g.setExit exit.node exit.index target = .ok (g', previous)) : g'.HasExit other := by
  obtain ⟨before, hbefore⟩ := h
  rw [HasExit, target?_setExit hset]
  split
  · exact ⟨_, rfl⟩
  · exact ⟨_, hbefore⟩

/-- A link stays where an exit is linked. -/
theorem HasLink.setExit (h : g.HasLink other) {target : NodeId} {previous : Option NodeId}
    (htarget : target ∈ g.ids)
    (hset : g.setExit exit.node exit.index (some target) = .ok (g', previous)) :
    g'.HasLink other := by
  obtain ⟨before, hmem, hbefore⟩ := h
  rw [HasLink, target?_setExit hset, ids_setExit hset]
  split
  · exact ⟨target, htarget, rfl⟩
  · exact ⟨before, hmem, hbefore⟩

theorem HasExit.remove (h : g.HasExit exit) {id : NodeId} (hremove : g.remove id = some (g', n))
    (hne : exit.node ≠ id) : g'.HasExit exit := by
  obtain ⟨target, htarget⟩ := h
  rw [HasExit, target?_remove hremove hne, htarget]
  exact ⟨_, rfl⟩

/-- A link stays where a node is removed that it neither leaves nor leads to. -/
theorem HasLink.remove (h : g.HasLink exit) {id : NodeId} (hremove : g.remove id = some (g', n))
    (htouches : (!Editor.touches g id exit) = true) : g'.HasLink exit := by
  obtain ⟨target, hmem, htarget⟩ := h
  have hne : exit.node ≠ id := Editor.Anchored.node_ne_of_not_touches htouches
  have hleads : target ≠ id := by
    rintro rfl
    obtain ⟨m, hm, hexit⟩ := target?_eq_some_iff.mp htarget
    simp [Editor.touches, hm, Node.exit?, hexit] at htouches
  refine ⟨target, mem_ids_remove hremove hmem hleads, ?_⟩
  rw [target?_remove hremove hne, htarget, Option.map_some, if_neg (by simpa using hleads)]

end Graph

/-- The exit that is being linked, if one is. -/
def Gesture.pending? {α : Type} : Gesture α → Option ExitId
  | linking exit _ => some exit
  | idle | panning _ | dragging .. | selecting .. => none

theorem Gesture.eq_linking {α : Type} {gesture : Gesture α} {exit : ExitId}
    (h : gesture.pending? = some exit) : ∃ cursor, gesture = .linking exit cursor := by
  cases gesture with
  | linking source cursor =>
    cases h
    exact ⟨cursor, rfl⟩
  | idle | panning last | dragging anchor starts | selecting start current base => cases h

theorem Gesture.pending?_forget {α : Type} {gesture : Gesture α} {id : NodeId} {exit : ExitId}
    (h : exit ∈ (gesture.forget id).pending?) : exit ∈ gesture.pending? ∧ exit.node ≠ id := by
  cases gesture with
  | linking source cursor =>
    by_cases hsource : source.node = id
    · rw [forget, if_pos hsource] at h
      cases h
    · rw [forget, if_neg hsource] at h
      cases h
      exact ⟨rfl, hsource⟩
  | idle | panning last | dragging anchor starts | selecting start current base => cases h

namespace Editor

variable {α : Type} {e : Editor α} {exit : ExitId}

/-! ### Exits under the pointer -/

section hit

variable [Metric α] {screen : Point α}

theorem hasExit_of_hitAt (hids : e.graph.DistinctIds)
    (h : e.hitAt screen = some (.exit exit)) : e.graph.HasExit exit := by
  simp only [hitAt] at h
  split at h
  · rename_i hfound
    cases h
    obtain ⟨n, hn, hhit⟩ := List.exists_of_findSome?_eq_some hfound
    unfold Node.hitAt at hhit
    split at hhit
    · cases hhit
    · split at hhit
      · rename_i index hindex
        cases hhit
        obtain ⟨hlt, -⟩ := List.findIdx?_eq_some_iff_getElem.mp hindex
        rw [Node.length_exitAnchors] at hlt
        exact Graph.hasExit_of_mem hids (List.mem_reverse.mp hn) hlt
      · split at hhit <;> cases hhit
  · obtain ⟨c, -, hc⟩ := Option.map_eq_some_iff.mp h
    cases hc

theorem hasLink_of_hitAt (hids : e.graph.DistinctIds)
    (h : e.hitAt screen = some (.connector exit)) : e.graph.HasLink exit := by
  simp only [hitAt] at h
  split at h
  · rename_i hfound
    cases h
    obtain ⟨n, -, hhit⟩ := List.exists_of_findSome?_eq_some hfound
    unfold Node.hitAt at hhit
    split at hhit
    · cases hhit
    · split at hhit
      · cases hhit
      · split at hhit <;> cases hhit
  · obtain ⟨c, hc, hexit⟩ := Option.map_eq_some_iff.mp h
    cases hexit
    obtain ⟨hmem, hnear⟩ := List.mem_filter.mp (nearest?_mem hc)
    rw [Bool.and_eq_true] at hnear
    exact Graph.hasLink_of_mem_connectors hids hmem hnear.1

end hit

/-- What the editor is asked to link or to unlink is there. -/
structure Committable (e : Editor α) : Prop where
  distinct : e.graph.DistinctIds
  pending : ∀ exit ∈ e.gesture.pending?, e.graph.HasExit exit
  selected : ∀ exit ∈ e.selectedExit, e.graph.HasLink exit

namespace Committable

theorem ofGraph [Scalar α] (settings : Settings α) {g : Graph α} (hids : g.DistinctIds) :
    Committable (Editor.ofGraph settings g) where
  distinct := hids
  pending _ h := nomatch h
  selected _ h := nomatch h

theorem withGesture {gesture : Gesture α} (h : Committable e) (hnone : gesture.pending? = none) :
    Committable { e with gesture } :=
  { h with pending := by simp [hnone] }

theorem withIdle (h : Committable e) : Committable { e with gesture := .idle } :=
  h.withGesture rfl

theorem withLinking (h : Committable e) (hexit : e.graph.HasExit exit) (cursor : Point α) :
    Committable { e with gesture := .linking exit cursor } := by
  refine { h with pending := fun other hother => ?_ }
  cases hother
  exact hexit

theorem withoutExit (h : Committable e) : Committable { e with selectedExit := none } :=
  { h with selected := fun _ hexit => nomatch hexit }

/-- Nodes are put elsewhere. -/
theorem withPlaces (h : Committable e) (places : List (NodeId × Point α)) :
    Committable { e with graph := restore e.graph places } where
  distinct := distinctIds_restore h.distinct places
  pending exit hexit := by
    rw [Graph.HasExit, target?_restore h.distinct]
    exact h.pending exit hexit
  selected exit hexit := by
    rw [Graph.HasLink, target?_restore h.distinct, ids_restore]
    exact h.selected exit hexit

/-! ### Edits -/

theorem removeNode (h : Committable e) (id : NodeId) : Committable (e.removeNode id).1 := by
  simp only [Editor.removeNode]
  split
  · refine { h with selected := fun exit hexit => ?_ }
    exact h.selected exit (Option.mem_filter_iff.mp hexit).1
  -- The connector was given up before the removal if that clears its exit.
  · rename_i g _ hremove
    constructor
    case distinct => exact h.distinct.remove hremove
    case pending =>
      intro exit hexit
      obtain ⟨hpending, hne⟩ := Gesture.pending?_forget hexit
      exact (h.pending exit hpending).remove hremove hne
    case selected =>
      intro exit hexit
      obtain ⟨hmem, htouches⟩ := Option.mem_filter_iff.mp hexit
      exact (h.selected exit hmem).remove hremove htouches

theorem removeNodes (h : Committable e) (ids : List NodeId) :
    Committable (e.removeNodes ids).1 := by
  induction ids generalizing e with
  | nil => exact h
  | cons id rest ih => exact ih (h.removeNode id)

theorem cancel (h : Committable e) : Committable e.cancel.1 := by
  unfold Editor.cancel
  split
  · exact h.withIdle
  · exact h.withIdle.withPlaces _
  · exact { h.withIdle with }
  · exact h.withIdle
  · exact h.withIdle

/-- The selected connector is given up, so that it may be unlinked. -/
theorem deleteSelected (h : Committable e) : Committable e.deleteSelected.1 := by
  have hcleared {exit : ExitId} {g : Graph α} {previous : Option NodeId}
      (hclear : e.graph.clearLink exit.node exit.index = .ok (g, previous)) :
      Committable { e with graph := g, selectedExit := none } :=
    { distinct := h.distinct.setExit hclear
      pending := fun other hother => (h.pending other hother).setExit hclear
      selected := fun _ hexit => nomatch hexit }
  unfold Editor.deleteSelected
  split
  · exact h.removeNodes e.selection
  · simp only
    split
    · rename_i hclear
      exact hcleared hclear
    · rename_i hclear
      exact hcleared hclear
    · exact h.withoutExit

theorem clearSelection (h : Committable e) : Committable e.clearSelection :=
  { h.withoutExit with }

theorem selectNode (h : Committable e) (id : NodeId) (beside : Bool) :
    Committable (e.selectNode id beside) :=
  { h.withoutExit with }

theorem toggleNode (h : Committable e) (id : NodeId) : Committable (e.toggleNode id) :=
  { h with }

theorem beginLinking [Scalar α] {e' : Editor α} (h : Committable e)
    (hbegin : e.beginLinking exit = .ok e') : Committable e' := by
  unfold Editor.beginLinking at hbegin
  split at hbegin
  · cases hbegin
  · rename_i n hn
    split at hbegin
    · cases hbegin
    · rename_i anchor hanchor
      cases hbegin
      obtain ⟨hindex, -⟩ := List.getElem?_eq_some_iff.mp hanchor
      rw [Node.length_exitAnchors] at hindex
      have hexit := Graph.hasExit_of_mem h.distinct (Graph.mem_of_node? hn) hindex
      rw [Graph.id_of_node? hn] at hexit
      exact h.withLinking hexit anchor

/-! ### Events -/

theorem pressBody (h : Committable e) (id : NodeId) (world : Point α) (additive : Bool)
    (time : Nat) : Committable (e.pressBody id world additive time).1 := by
  obtain ⟨selection, lastClick, hkept | hbegun⟩ := pressBody_cases e id world additive time
  · rw [hkept]
    exact { h.withoutExit with }
  · rw [hbegun]
    exact { h.withoutExit.withGesture rfl with }

theorem pressNothing (h : Committable e) (screen world : Point α) (additive : Bool) :
    Committable (e.pressNothing screen world additive).1 := by
  simp only [Editor.pressNothing]
  split
  · exact { h.withGesture rfl with }
  · exact { h.clearSelection.withGesture rfl with }

theorem pressKey (h : Committable e) (key : Key) : Committable (e.pressKey key).1 := by
  cases key with
  | escape =>
    simp only [Editor.pressKey]
    split
    · split
      · exact h
      · exact h.clearSelection
    · exact h.cancel
  | delete | backspace =>
    simp only [Editor.pressKey]
    split
    · exact h.deleteSelected
    · exact h
  | other => exact h

variable [Metric α]

theorem finishLinking (h : Committable e) (exit : ExitId) (world : Point α) (button : Button) :
    Committable (e.finishLinking exit world button).1 := by
  unfold Editor.finishLinking
  split
  · split
    · exact h.cancel
    · rename_i n _
      split
      · exact h
      · simp only
        split
        · rename_i hlink
          obtain ⟨htarget, hset⟩ := Graph.setLink_cases hlink
          exact {
            distinct := h.distinct.setExit hset
            pending := fun _ hother => nomatch hother
            selected := fun other hother => (h.selected other hother).setExit htarget hset }
        · exact h.withIdle
  · exact h.cancel

theorem pressPrimary (h : Committable e) {screen : Point α} (hhover : e.hover = e.hitAt screen)
    (world : Point α) (additive : Bool) (time : Nat) :
    Committable (e.pressPrimary screen world additive time).1 := by
  unfold Editor.pressPrimary
  split
  · exact h.removeNode _
  · rename_i hexit
    exact h.withLinking (hasExit_of_hitAt h.distinct (hhover.symm.trans hexit)) world
  · exact h.pressBody _ world additive time
  · rename_i exit hexit
    refine { h with selected := fun other hother => ?_ }
    cases hother
    exact hasLink_of_hitAt h.distinct (hhover.symm.trans hexit)
  · exact h.pressNothing screen world additive

theorem press (h : Committable e) (screen : Point α) (button : Button) (additive : Bool)
    (time : Nat) : Committable (e.press screen button additive time).1 := by
  have hhit : Committable { e with pointer := some screen, hover := e.hitAt screen } := { h with }
  simp only [Editor.press]
  split
  · exact hhit.finishLinking _ _ button
  · cases button with
    | primary => exact hhit.pressPrimary rfl _ additive time
    | middle => exact hhit.withGesture rfl
    | other => exact hhit

theorem move (h : Committable e) (screen : Point α) : Committable (e.move screen) := by
  simp only [Editor.move]
  split
  · exact { h with }
  · exact { h.withGesture rfl with }
  · rw [dragTo_eq_restore]
    exact { h.withPlaces _ with }
  · exact { h.withGesture rfl with }
  · rename_i exit cursor hgesture
    exact { h.withLinking (h.pending exit (by rw [hgesture]; rfl)) _ with }

theorem release (h : Committable e) (screen : Point α) : Committable (e.release screen).1 := by
  simp only [Editor.release]
  split
  · exact { h.withIdle with }
  · rw [drop_eq_restore]
    exact { h.withIdle.withPlaces _ with }
  · exact { h.withIdle with }
  · exact { h with }
  · exact { h with }

theorem scroll (h : Committable e) (screen : Point α) (delta : α) :
    Committable (e.scroll screen delta) := by
  unfold Editor.scroll
  split
  · exact h
  · exact { h with }

theorem handle (h : Committable e) (event : Event α) : Committable (e.handle event).1 := by
  cases event with
  | press screen button modifiers time => exact h.press screen button modifiers.isAdditive time
  | move screen => exact h.move screen
  | release screen => exact h.release screen
  | wheel screen delta => exact h.scroll screen delta
  | key key => exact h.pressKey key
  | resize size => exact { h with }

theorem perform (h : Committable e) (op : Operation α) : Committable (e.perform op) := by
  cases op with
  | handle event => exact h.handle event
  | beginLinking exit =>
    simp only [Editor.perform]
    split
    · rename_i hbegin
      exact h.beginLinking hbegin
    · exact h
  | cancel => exact h.cancel
  | removeNode id => exact h.removeNode id
  | deleteSelected => exact h.deleteSelected
  | clearSelection => exact h.clearSelection
  | selectNode id beside => exact h.selectNode id beside
  | toggleNode id => exact h.toggleNode id

theorem performAll (h : Committable e) (ops : List (Operation α)) :
    Committable (e.performAll ops) :=
  List.foldlRecOn ops Editor.perform h fun _ he op _ => he.perform op

end Committable

/-! ### Commitment -/

variable [Metric α]

/-- The exit belongs to a node, and a press on another node links it to that one. -/
structure CommitsLink (e : Editor α) (exit : ExitId) : Prop where
  source : ∃ n, e.graph.node? exit.node = some n ∧ exit.index < n.body.exitCount
  press (screen : Point α) (modifiers : Modifiers) (time : Nat) (n : Node α) :
    e.graph.nodeAt? (e.viewport.toWorld screen) = some n → n.id ≠ exit.node →
      (e.handle (.press screen .primary modifiers time)).2 = [.linked exit n.id]

/-- The exit leads to a node, and the keys that delete unlink it and no other exit. -/
structure CommitsUnlink (e : Editor α) (exit : ExitId) : Prop where
  link : ∃ id ∈ e.graph.ids, e.graph.target? exit.node exit.index = some (some id)
  delete (key : Key) : e.gesture = .idle → key = .delete ∨ key = .backspace →
    (e.handle (.key key)).2 = [.unlinked exit] ∧
      ∀ node index, (e.handle (.key key)).1.graph.target? node index =
        if node = exit.node ∧ index = exit.index then some none else e.graph.target? node index

theorem Committable.commitsLink {cursor : Point α} (h : Committable e)
    (hgesture : e.gesture = .linking exit cursor) : e.CommitsLink exit := by
  obtain ⟨previous, hexit⟩ := h.pending exit (by rw [hgesture]; rfl)
  constructor
  case source =>
    obtain ⟨n, hn, hexits⟩ := Graph.target?_eq_some_iff.mp hexit
    obtain ⟨hlt, -⟩ := List.getElem?_eq_some_iff.mp hexits
    rw [Body.length_exits] at hlt
    exact ⟨n, hn, hlt⟩
  case press =>
    intro screen modifiers time n hn hne
    obtain ⟨g, hset⟩ := Graph.setExit_of_target? hexit (some n.id)
    have hcontains : e.graph.contains n.id = true := by
      have hmem : n ∈ e.graph.nodes := List.mem_reverse.mp (List.mem_of_find?_eq_some hn)
      exact Graph.contains_iff.mpr (List.mem_map_of_mem hmem)
    have hlink : e.graph.setLink exit.node exit.index n.id = .ok (g, previous) := by
      rw [Graph.setLink, if_pos hcontains, hset]
    simp only [Editor.handle, Editor.press, hgesture, Editor.finishLinking, if_true, hn,
      if_neg hne, hlink]

theorem Committable.commitsUnlink (h : Committable e) (hselected : e.selectedExit = some exit) :
    e.CommitsUnlink exit := by
  obtain ⟨id, hmem, htarget⟩ := h.selected exit hselected
  obtain ⟨g, hset⟩ := Graph.setExit_of_target? htarget none
  refine ⟨⟨id, hmem, htarget⟩, fun key hidle hkey => ?_⟩
  have hdelete : e.handle (.key key) =
      ({ e with selectedExit := none, graph := g }, [.unlinked exit]) := by
    have hclear : e.graph.clearLink exit.node exit.index = .ok (g, some id) := hset
    rcases hkey with rfl | rfl <;>
      simp only [Editor.handle, Editor.pressKey, hidle, Gesture.isIdle, if_true,
        Editor.deleteSelected, hselected, hclear]
  rw [hdelete]
  exact ⟨rfl, fun _ _ => Graph.target?_setExit hset⟩

/-- **An editor that begins afresh and is used in any order, and with any ids, can commit what it
holds: a link in the making to any other node, and the removal of the selected connector.** -/
theorem performAll_commits (settings : Settings α) {g : Graph α} (hids : g.DistinctIds)
    (ops : List (Operation α)) (he : (ofGraph settings g).performAll ops = e) :
    (∀ exit cursor, e.gesture = .linking exit cursor → e.CommitsLink exit) ∧
      ∀ exit, e.selectedExit = some exit → e.CommitsUnlink exit := by
  have hcommits : Committable e := he ▸ (Committable.ofGraph settings hids).performAll ops
  exact ⟨fun _ _ hgesture => hcommits.commitsLink hgesture,
    fun _ hselected => hcommits.commitsUnlink hselected⟩

/-- Two nodes with room between them, the first of which leads to the second. -/
def apart : Editor Float32 := .ofGraph .default { nodes := [
  .create "ask" (.exec { next := some "end" }),
  (Node.create "end" .terminal).moveTo ⟨300.0, 8.0⟩] }

/-- An id of no node is selected, then the connector clicked. -/
def connectorClick : List (Operation Float32) :=
  [.selectNode "ghost" true, .handle (.press ⟨650.0, 328.0⟩ .primary {} 0)]

/-- The connector can be unlinked, and its exit led elsewhere once that is asked for. -/
theorem performAll_commits_apart :
    ((apart.performAll connectorClick).handle (.key .delete)).2 = [.unlinked ⟨"ask", 0⟩] ∧
      (apart.performAll (connectorClick ++ [.beginLinking ⟨"ask", 0⟩])).CommitsLink
        ⟨"ask", 0⟩ := by
  have hids : apart.graph.DistinctIds := by
    unfold Graph.DistinctIds
    decide +kernel
  obtain ⟨hselected, hidle, hpending⟩ :
      (apart.performAll connectorClick).selectedExit = some ⟨"ask", 0⟩ ∧
        (apart.performAll connectorClick).gesture.isIdle = true ∧
        (apart.performAll (connectorClick ++ [.beginLinking ⟨"ask", 0⟩])).gesture.pending? =
          some ⟨"ask", 0⟩ := by decide +kernel
  obtain ⟨cursor, hgesture⟩ := Gesture.eq_linking hpending
  have hunlink := (performAll_commits .default hids connectorClick rfl).2 _ hselected
  have hlink := (performAll_commits .default hids _ rfl).1 _ cursor hgesture
  exact ⟨(hunlink.delete .delete (Gesture.isIdle_iff.mp hidle) (.inl rfl)).1, hlink⟩

end Editor

end EventGraph
