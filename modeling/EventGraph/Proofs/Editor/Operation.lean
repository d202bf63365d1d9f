import EventGraph.Editor.Event
import EventGraph.Proofs.Graph.Lookup

/-!
# Operations

What can be done with an editor, and the states it can come to. Nodes are selected by ids of
the graph only; events and all else may come in any order.
-/

namespace EventGraph.Editor

variable {α : Type}

inductive Operation (α : Type) where
  | handle (event : Event α)
  | beginLinking (exit : ExitId)
  | cancel
  | removeNode (id : NodeId)
  | deleteSelected
  | clearSelection
  | selectNode (id : NodeId) (beside : Bool)
  | toggleNode (id : NodeId)

/-- Operations that select name a node of the graph. -/
def Operation.Admissible (g : Graph α) : Operation α → Prop
  | selectNode id _ | toggleNode id => id ∈ g.ids
  | handle _ | beginLinking _ | cancel | removeNode _ | deleteSelected | clearSelection => True

/-- Linking that cannot be begun changes nothing. -/
def perform [Metric α] (e : Editor α) : Operation α → Editor α
  | .handle event => (e.handle event).1
  | .beginLinking exit => match e.beginLinking exit with
    | .ok e' => e'
    | .error _ => e
  | .cancel => e.cancel.1
  | .removeNode id => (e.removeNode id).1
  | .deleteSelected => e.deleteSelected.1
  | .clearSelection => e.clearSelection
  | .selectNode id beside => e.selectNode id beside
  | .toggleNode id => e.toggleNode id

/-- The state after some operations, one after the other, whatever they select. -/
def performAll [Metric α] (e : Editor α) (ops : List (Operation α)) : Editor α :=
  ops.foldl perform e

inductive Reachable [Metric α] (start : Editor α) : Editor α → Prop
  | start : Reachable start start
  | perform {e : Editor α} (op : Operation α) :
      Reachable start e → op.Admissible e.graph → Reachable start (e.perform op)

/-- What every operation keeps holds in every state. -/
theorem Reachable.invariant [Metric α] {Inv : Editor α → Prop} {start e : Editor α}
    (h : Reachable start e) (hstart : Inv start)
    (hop : ∀ (e : Editor α) (op : Operation α), op.Admissible e.graph → Inv e →
      Inv (e.perform op)) : Inv e := by
  induction h with
  | start => exact hstart
  | perform op _ hadmissible ih => exact hop _ op hadmissible ih

/-- The state after some events, one after the other. -/
def after [Metric α] (e : Editor α) (events : List (Event α)) : Editor α :=
  events.foldl (fun e event => (e.handle event).1) e

theorem after_concat [Metric α] (e : Editor α) (events : List (Event α)) (event : Event α) :
    e.after (events ++ [event]) = ((e.after events).handle event).1 := by
  simp only [after, List.foldl_append, List.foldl_cons, List.foldl_nil]

/-- What some events report, one after the other. -/
def report [Metric α] (e : Editor α) : List (Event α) → List Action
  | [] => []
  | event :: rest => (e.handle event).2 ++ (e.handle event).1.report rest

/-! ### Moving nodes changes no id -/

@[simp] theorem ids_restore (g : Graph α) (starts : List (NodeId × Point α)) :
    (restore g starts).ids = g.ids := by
  unfold restore
  induction starts generalizing g with
  | nil => rfl
  | cons start rest ih =>
    rw [List.foldl_cons, ih, Graph.ids_moveNode]

@[simp] theorem ids_dragTo [Metric α] (g : Graph α) (anchor world : Point α)
    (starts : List (NodeId × Point α)) : (dragTo g anchor world starts).ids = g.ids := by
  unfold dragTo
  induction starts generalizing g with
  | nil => rfl
  | cons start rest ih =>
    rw [List.foldl_cons, ih, Graph.ids_moveNode]

@[simp] theorem ids_drop [Metric α] (s : Settings α) (anchor world : Point α)
    (starts : List (NodeId × Point α)) (g : Graph α) :
    (drop s anchor world starts g).1.ids = g.ids := by
  induction starts generalizing g with
  | nil => rfl
  | cons start rest ih =>
    unfold drop
    split
    · exact (ih _).trans (Graph.ids_moveNode g start.1 _)
    · exact ih g

/-! ### Under the pointer is a node of the graph, or its connector -/

theorem owner_of_node_hitAt [Metric α] {n : Node α} {reach : α} {world : Point α} {hit : Hit}
    (h : n.hitAt reach world = some hit) : hit.owner = n.id := by
  unfold Node.hitAt at h
  split at h
  · cases h
    rfl
  · split at h
    · cases h
      rfl
    · split at h
      · cases h
        rfl
      · cases h

theorem nearest?_mem [Metric α] {β : Type} {distance : β → α} {l : List β} {b : β}
    (h : nearest? distance l = some b) : b ∈ l := by
  cases l with
  | nil => cases h
  | cons first rest =>
    cases h
    refine List.foldlRecOn rest _ List.mem_cons_self fun best hbest c hc => ?_
    split
    · exact List.mem_cons_of_mem first hc
    · exact hbest

theorem source_mem_of_mem_connectors [Scalar α] {g : Graph α} {c : Connector α}
    (h : c ∈ g.connectors) : c.source ∈ g.ids := by
  obtain ⟨n, hn, hc⟩ := List.mem_flatMap.mp h
  obtain ⟨index, _, rfl⟩ := List.mem_mapIdx.mp hc
  exact List.mem_map_of_mem hn

theorem owner_mem_of_hitAt [Metric α] {e : Editor α} {screen : Point α} {hit : Hit}
    (h : e.hitAt screen = some hit) : hit.owner ∈ e.graph.ids := by
  simp only [hitAt] at h
  split at h
  · rename_i found hfound
    cases h
    obtain ⟨n, hn, hhit⟩ := List.exists_of_findSome?_eq_some hfound
    rw [owner_of_node_hitAt hhit]
    exact List.mem_map_of_mem (List.mem_reverse.mp hn)
  · obtain ⟨c, hc, rfl⟩ := Option.map_eq_some_iff.mp h
    exact source_mem_of_mem_connectors (List.mem_filter.mp (nearest?_mem hc)).1

end EventGraph.Editor
