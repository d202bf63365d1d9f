import EventGraph.Proofs.Editor.Gesture
import EventGraph.Proofs.Editor.References

/-!
# Replayed reports

The actions that events return say what was done to the graph, up to the places of nodes. A host
that makes the reported changes on a graph of its own keeps up with the editor.
-/

namespace EventGraph

/-- Makes the change that an action reports, if it can be made. -/
def Editor.Action.redo {α : Type} (g : Graph α) : Editor.Action → Option (Graph α)
  | removed id => (g.remove id).map (·.1)
  | linked exit target => (g.setLink exit.node exit.index target).toOption.map (·.1)
  | unlinked exit => (g.clearLink exit.node exit.index).toOption.map (·.1)
  | opened _ | linkCancelled | moved _ | selectionChanged => some g

namespace Graph

open Editor (Action)

variable {α : Type} {g g' : Graph α} {report : List Action}

/-- Makes the changes of a report in order. -/
def replay (g : Graph α) (report : List Action) : Option (Graph α) := report.foldlM Action.redo g

theorem replay_append (g : Graph α) (report more : List Action) :
    g.replay (report ++ more) = (g.replay report).bind (·.replay more) :=
  List.foldlM_append

/-! ### Ids -/

theorem eq_ok_of_toOption {ε β : Type} {x : Except ε β} {b : β} (h : x.toOption = some b) :
    x = .ok b := by
  cases x with
  | error => cases h
  | ok b' => rw [Option.some.inj h]

theorem ids_redo {a : Action} (h : a.redo g = some g') : g'.ids.Sublist g.ids := by
  cases a with
  | removed id =>
    obtain ⟨⟨_, n⟩, hremove, rfl⟩ := Option.map_eq_some_iff.mp h
    rw [ids_remove hremove]
    exact List.erase_sublist
  | linked exit target =>
    obtain ⟨⟨_, previous⟩, hlink, rfl⟩ := Option.map_eq_some_iff.mp h
    rw [ids_setLink (eq_ok_of_toOption hlink)]
  | unlinked exit =>
    obtain ⟨⟨_, previous⟩, hclear, rfl⟩ := Option.map_eq_some_iff.mp h
    rw [ids_clearLink (eq_ok_of_toOption hclear)]
  | opened | linkCancelled | moved | selectionChanged =>
    obtain rfl := Option.some.inj h
    exact List.Sublist.refl _

theorem ids_replay (h : g.replay report = some g') : g'.ids.Sublist g.ids := by
  induction report generalizing g with
  | nil =>
    obtain rfl := Option.some.inj h
    exact List.Sublist.refl _
  | cons a rest ih =>
    obtain ⟨g₁, hredo, hrest⟩ := Option.bind_eq_some_iff.mp h
    exact (ih hrest).trans (ids_redo hredo)

/-! ### Places are left out -/

theorem mapNodes_comm {f f' k k' : Node α → Node α} (h : ∀ n, f' (f n) = k' (k n)) :
    (g.mapNodes f).mapNodes f' = (g.mapNodes k).mapNodes k' := by
  rw [mapNodes_mapNodes, mapNodes_mapNodes]
  exact mapNodes_congr fun n _ => h n

variable [Scalar α]

/-- All of a graph but where its nodes are. -/
def unplaced (g : Graph α) : Graph α := g.mapNodes (·.moveTo .zero)

theorem ids_unplaced (g : Graph α) : g.unplaced.ids = g.ids :=
  ids_mapNodes (f := (·.moveTo .zero)) fun _ => rfl

theorem node?_unplaced (g : Graph α) (id : NodeId) :
    g.unplaced.node? id = (g.node? id).map (·.moveTo .zero) :=
  node?_mapNodes (f := (·.moveTo .zero)) (fun _ => rfl) id

theorem remove_unplaced (g : Graph α) (id : NodeId) :
    (g.unplaced.remove id).map (·.1) = ((g.remove id).map (·.1)).map unplaced := by
  simp only [remove, node?_unplaced, Option.map_map]
  congr 1
  funext n
  simp only [Function.comp, unplaced, mapNodes, List.eraseP_map, List.map_map]
  rfl

theorem setExit_unplaced (g : Graph α) (node : NodeId) (index : Nat) (target : Option NodeId) :
    (g.unplaced.setExit node index target).toOption.map (·.1) =
      ((g.setExit node index target).toOption.map (·.1)).map unplaced := by
  simp only [setExit, node?_unplaced]
  cases hn : g.node? node with
  | none => rfl
  | some n =>
    simp only [Option.map_some, Node.setExit, Node.moveTo]
    cases hexit : n.body.exits[index]? with
    | none => rfl
    | some previous =>
      refine congrArg some (mapNodes_comm fun m => ?_)
      by_cases hid : m.id = n.id
      · simp only [Node.moveTo, hid, if_true]
      · simp only [Node.moveTo, hid, if_false]

theorem redo_unplaced (g : Graph α) (a : Action) : a.redo g.unplaced = (a.redo g).map unplaced := by
  cases a with
  | removed id => exact remove_unplaced g id
  | linked exit target =>
    have hcontains : g.unplaced.contains target = g.contains target := by
      rw [Bool.eq_iff_iff, contains_iff, contains_iff, ids_unplaced]
    simp only [Action.redo, setLink, hcontains]
    split
    · exact setExit_unplaced g exit.node exit.index (some target)
    · rfl
  | unlinked exit => exact setExit_unplaced g exit.node exit.index none
  | opened | linkCancelled | moved | selectionChanged => rfl

/-- What can be redone does not depend on where the nodes are. -/
theorem replay_unplaced (g : Graph α) (report : List Action) :
    g.unplaced.replay report = (g.replay report).map unplaced := by
  induction report generalizing g with
  | nil => rfl
  | cons a rest ih =>
    have hcons (g : Graph α) : g.replay (a :: rest) = (a.redo g).bind (·.replay rest) := rfl
    rw [hcons, hcons, redo_unplaced, Option.bind_map, Option.map_bind]
    congr 1
    funext g'
    exact ih g'

end Graph

namespace Editor

variable {α : Type} {e : Editor α}

/-! ### Edits -/

theorem replay_removeNode (e : Editor α) (id : NodeId) :
    e.graph.replay (e.removeNode id).2 = some (e.removeNode id).1.graph := by
  cases hremove : e.graph.remove id with
  | none =>
    simp only [removeNode, hremove]
    rfl
  | some removed =>
    have hredo : Action.redo e.graph (.removed id) = some removed.1 := by
      rw [Action.redo, hremove]
      rfl
    simp only [removeNode, hremove]
    exact congrArg (Option.bind · some) hredo

theorem replay_removeNodes (e : Editor α) (ids : List NodeId) :
    e.graph.replay (e.removeNodes ids).2 = some (e.removeNodes ids).1.graph := by
  induction ids generalizing e with
  | nil => rfl
  | cons id rest ih =>
    simp only [removeNodes]
    rw [Graph.replay_append, replay_removeNode, Option.bind_some, ih]

/-- An exit that led nowhere is not reported, and was left as it was. -/
theorem replay_deleteSelected (hids : e.graph.DistinctIds) :
    e.graph.replay e.deleteSelected.2 = some e.deleteSelected.1.graph := by
  unfold deleteSelected
  split
  · exact replay_removeNodes e e.selection
  · rename_i exit _
    simp only
    split
    · rename_i g previous hclear
      have hredo : Action.redo e.graph (.unlinked exit) = some g := by
        rw [Action.redo, hclear]
        rfl
      exact congrArg (Option.bind · some) hredo
    · rename_i g hclear
      exact congrArg some (Graph.setExit_self hids hclear).symm
    · rfl

theorem replay_finishLinking [Metric α] {exit : ExitId} {cursor : Point α}
    (hgesture : e.gesture = .linking exit cursor) (world : Point α) (button : Button) :
    e.graph.replay (e.finishLinking exit world button).2 =
      some (e.finishLinking exit world button).1.graph := by
  have hcancel : e.graph.replay e.cancel.2 = some e.cancel.1.graph := by
    simp only [cancel, hgesture]
    rfl
  unfold finishLinking
  split
  · split
    · exact hcancel
    · rename_i n _
      split
      · rfl
      · simp only
        split
        · rename_i g previous hlink
          have hredo : Action.redo e.graph (.linked exit n.id) = some g := by
            rw [Action.redo, hlink]
            rfl
          exact congrArg (Option.bind · some) hredo
        · rfl
  · exact hcancel

/-! ### Events -/

theorem graph_pressBody (e : Editor α) (id : NodeId) (world : Point α) (additive : Bool)
    (time : Nat) : (e.pressBody id world additive time).1.graph = e.graph := by
  obtain ⟨selection, lastClick, hkept | hbegun⟩ := pressBody_cases e id world additive time
  · rw [hkept]
  · rw [hbegun]

theorem replay_pressBody (e : Editor α) (id : NodeId) (world : Point α) (additive : Bool)
    (time : Nat) : e.graph.replay (e.pressBody id world additive time).2 =
      some (e.pressBody id world additive time).1.graph := by
  have hsilent (b c : Prop) [Decidable b] [Decidable c] :
      e.graph.replay ((if b then [.opened id] else []) ++ (if c then [.selectionChanged] else [])) =
        some e.graph := by
    split <;> split <;> rfl
  rw [graph_pressBody]
  exact hsilent _ _

theorem replay_pressPrimary (e : Editor α) (screen world : Point α) (additive : Bool)
    (time : Nat) : e.graph.replay (e.pressPrimary screen world additive time).2 =
      some (e.pressPrimary screen world additive time).1.graph := by
  unfold pressPrimary
  split
  · exact replay_removeNode e _
  · rfl
  · exact replay_pressBody e _ world additive time
  · simp only [pressConnector]
    split <;> rfl
  · simp only [pressNothing]
    split
    · rfl
    · split <;> rfl

variable [Metric α]

theorem replay_press (e : Editor α) (screen : Point α) (button : Button) (additive : Bool)
    (time : Nat) : e.graph.replay (e.press screen button additive time).2 =
      some (e.press screen button additive time).1.graph := by
  simp only [press]
  split
  · rename_i hgesture
    exact replay_finishLinking (e := { e with pointer := some screen, hover := e.hitAt screen })
      hgesture _ button
  · cases button with
    | primary =>
      exact replay_pressPrimary { e with pointer := some screen, hover := e.hitAt screen } screen _
        additive time
    | middle | other => rfl

/-- Dragging, dropping and taking back change places only. -/
theorem unplaced_restore {g : Graph α} (h : g.DistinctIds) (places : List (NodeId × Point α)) :
    (restore g places).unplaced = g.unplaced := by
  rw [restore_eq_mapNodes h]
  exact Graph.mapNodes_mapNodes _ _ g

/-- The changes that a report names lead from one graph to another, places aside. -/
def Accounts (report : List Action) (g g' : Graph α) : Prop :=
  (g.replay report).map Graph.unplaced = some g'.unplaced

theorem accounts_of_replay {report : List Action} {g g' : Graph α}
    (h : g.replay report = some g') : Accounts report g g' :=
  congrArg (Option.map Graph.unplaced) h

theorem accounts_cancel (hids : e.graph.DistinctIds) :
    Accounts e.cancel.2 e.graph e.cancel.1.graph := by
  rw [Accounts, graph_cancel, rest, unplaced_restore hids]
  cases hgesture : e.gesture with
  | idle | panning | dragging | selecting | linking =>
    simp only [cancel, hgesture]
    rfl

theorem accounts_move (hids : e.graph.DistinctIds) (screen : Point α) :
    Accounts [] e.graph (e.move screen).graph := by
  cases hgesture : e.gesture with
  | dragging anchor starts =>
    simp only [move, hgesture, dragTo_eq_restore, Accounts, unplaced_restore hids]
    rfl
  | idle | panning | selecting | linking =>
    simp only [move, hgesture]
    exact accounts_of_replay rfl

theorem accounts_release (hids : e.graph.DistinctIds) (screen : Point α) :
    Accounts (e.release screen).2 e.graph (e.release screen).1.graph := by
  cases hgesture : e.gesture with
  | dragging anchor starts =>
    simp only [release, hgesture, drop_eq_restore, Accounts, unplaced_restore hids]
    split <;> rfl
  | idle | panning | selecting | linking =>
    simp only [release, hgesture]
    exact accounts_of_replay rfl

theorem accounts_pressKey (hids : e.graph.DistinctIds) (key : Key) :
    Accounts (e.pressKey key).2 e.graph (e.pressKey key).1.graph := by
  cases key with
  | escape =>
    simp only [pressKey]
    split
    · split <;> exact accounts_of_replay rfl
    · exact accounts_cancel hids
  | delete | backspace =>
    simp only [pressKey]
    split
    · exact accounts_of_replay (replay_deleteSelected hids)
    · exact accounts_of_replay rfl
  | other => exact accounts_of_replay rfl

theorem accounts_handle (hids : e.graph.DistinctIds) (event : Event α) :
    Accounts (e.handle event).2 e.graph (e.handle event).1.graph := by
  cases event with
  | press screen button modifiers time =>
    exact accounts_of_replay (replay_press e screen button modifiers.isAdditive time)
  | move screen => exact accounts_move hids screen
  | release screen => exact accounts_release hids screen
  | wheel screen delta =>
    simp only [handle, scroll]
    split <;> exact accounts_of_replay rfl
  | key key => exact accounts_pressKey hids key
  | resize size => exact accounts_of_replay rfl

/-- No event brings a node into the graph. -/
theorem ids_handle (hids : e.graph.DistinctIds) (event : Event α) :
    (e.handle event).1.graph.ids.Sublist e.graph.ids := by
  obtain ⟨g, hreplay, hg⟩ := Option.map_eq_some_iff.mp (accounts_handle hids event)
  rw [← Graph.ids_unplaced, ← hg, Graph.ids_unplaced]
  exact Graph.ids_replay hreplay

theorem distinctIds_handle (hids : e.graph.DistinctIds) (event : Event α) :
    (e.handle event).1.graph.DistinctIds :=
  hids.sublist (ids_handle hids event)

/-- **The reports of any events, one by one or of many, say all that was done to the graph but
where its nodes are: the reported changes can be made in their order on the graph from before, and
they give the graph from after.** -/
theorem replay_report (hids : e.graph.DistinctIds) (events : List (Event α)) :
    (e.graph.replay (e.report events)).map Graph.unplaced =
      some (e.after events).graph.unplaced := by
  -- The replayed graph has other places than the editor's, which no later change can tell.
  induction events generalizing e with
  | nil => rfl
  | cons event rest ih =>
    obtain ⟨g, hreplay, hg⟩ := Option.map_eq_some_iff.mp (accounts_handle hids event)
    have hrest := ih (distinctIds_handle hids event)
    calc (e.graph.replay (e.report (event :: rest))).map Graph.unplaced
        = (g.replay ((e.handle event).1.report rest)).map Graph.unplaced := by
          rw [report, Graph.replay_append, hreplay, Option.bind_some]
      _ = ((e.handle event).1.graph.replay ((e.handle event).1.report rest)).map
            Graph.unplaced := by
          rw [← Graph.replay_unplaced, hg, Graph.replay_unplaced]
      _ = some (((e.handle event).1.after rest).graph).unplaced := hrest

/-- The node at the end is selected and deleted, so that the exit before it leads nowhere. -/
theorem replay_report_pair :
    (pair.selectNode "end" false).report [.key .delete] = [.removed "end"] ∧
      pair.graph.target? "ask" 0 = some (some "end") ∧
      ((pair.selectNode "end" false).after [.key .delete]).graph.target? "ask" 0 = some none ∧
      ((pair.selectNode "end" false).graph.replay
        ((pair.selectNode "end" false).report [.key .delete])).map Graph.unplaced =
        some ((pair.selectNode "end" false).after [.key .delete]).graph.unplaced := by
  have hids : (pair.selectNode "end" false).graph.DistinctIds := by
    unfold Graph.DistinctIds
    decide +kernel
  exact ⟨by decide +kernel, by decide +kernel, by decide +kernel, replay_report hids _⟩

end Editor

end EventGraph
