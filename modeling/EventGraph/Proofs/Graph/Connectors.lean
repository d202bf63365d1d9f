import EventGraph.Graph.Connector
import EventGraph.Proofs.Graph.Lookup
import EventGraph.Proofs.Node.Exits
import Mathlib.Data.List.Forall2

/-!
# Connectors

The connectors of a graph are its exits, seen once more: one for each exit of each node, in node
and exit order, with the target and the anchor that the node itself gives for the exit.
-/

namespace EventGraph

variable {α : Type}

/-! ### Exits of a node -/

/-- All views of the exits of a node are of the same exits, and what is done through one of them
is seen in the others. -/
structure Node.Coherent [Scalar α] (n : Node α) : Prop where
  exits : n.body.exits.length = n.body.exitCount
  labels : n.body.exitLabels.length = n.body.exitCount
  anchors : n.exitAnchors.length = n.body.exitCount
  /-- An exit that there is can be set: its target changes and nothing else. -/
  set : ∀ index target, index < n.body.exitCount → ∃ previous n',
    n.setExit index target = .ok (n', previous) ∧ n.body.exits[index]? = some previous ∧
      n'.body.exits = n.body.exits.set index target ∧ n'.bare = n.bare
  /-- No other exit can be set. -/
  refused : ∀ index target, n.body.exitCount ≤ index →
    n.setExit index target = .error (.exitOutOfRange n.id index)
  /-- Unlinking what leads to an id unlinks and counts the exits that do. -/
  cleared : ∀ id, (n.clearLinksTo id).2 = n.body.exits.count (some id) ∧
    (n.clearLinksTo id).1.body.exits = n.body.exits.map (without id) ∧
      (n.clearLinksTo id).1.bare = n.bare
  /-- In place, through the places of the exits, both come to the same, and an exit that cannot be
  set leaves the node as it is. -/
  setInPlace : ∀ index target,
    (InPlace.setExit index target).run n = n.leaving (n.setExit index target)
  clearedInPlace : ∀ id,
    (InPlace.clearLinksTo id).run n = .ok (n.clearLinksTo id).2 (n.clearLinksTo id).1

theorem Node.coherent [Scalar α] (n : Node α) : n.Coherent where
  exits := n.body.length_exits
  labels := n.body.length_exitLabels
  anchors := n.length_exitAnchors
  set index target hindex := by
    rw [← Body.length_exits] at hindex
    have hexit := List.getElem?_eq_getElem hindex
    refine ⟨_, { n with body := n.body.setExit index target }, ?_, hexit,
      Body.exits_setExit index target n.body, ?_⟩
    · simp only [setExit, hexit]
    · simp only [bare, Body.bare_setExit]
  refused index target hindex := by
    rw [← Body.length_exits] at hindex
    simp only [setExit, List.getElem?_eq_none hindex]
  cleared id := ⟨rfl, exits_clearLinksTo n id, bare_clearLinksTo n id⟩
  setInPlace := run_setExit n
  clearedInPlace := run_clearLinksTo n

/-! ### Connectors of a graph -/

theorem forall₂_flatMap {β γ δ : Type} {f : β → List γ} {k : β → List δ} {r : γ → δ → Prop}
    {l : List β} (h : ∀ b ∈ l, List.Forall₂ r (f b) (k b)) :
    List.Forall₂ r (l.flatMap f) (l.flatMap k) := by
  induction l with
  | nil => exact .nil
  | cons b rest ih =>
    rw [List.flatMap_cons, List.flatMap_cons]
    exact List.rel_append (h b List.mem_cons_self) (ih fun b hb => h b (List.mem_cons_of_mem _ hb))

namespace Graph

/-- The exits of all nodes, each node with the numbers of its own. -/
def exitPlaces (g : Graph α) : List (Node α × Nat) :=
  g.nodes.flatMap fun n => (List.range n.body.exitCount).map (n, ·)

variable [Scalar α]

/-- A connector is that of an exit of a node. -/
structure Shows (g : Graph α) (place : Node α × Nat) (c : Connector α) : Prop where
  source : c.source = place.1.id
  index : c.index = place.2
  target : place.1.body.exits[place.2]? = some c.target
  start : place.1.exitAnchors[place.2]? = some c.start
  /-- It ends just where its target is in the graph, at the entrance of that node. -/
  ends : c.stop.isSome ↔ ∃ id ∈ g.ids, c.target = some id
  stop : ∀ id m, c.target = some id → g.node? id = some m → c.stop = some m.entrance

theorem shows_connectorsOf (g : Graph α) (n : Node α) :
    List.Forall₂ (fun index c => g.Shows (n, index) c) (List.range n.body.exitCount)
      (g.connectorsOf n) := by
  rw [List.forall₂_iff_get]
  refine ⟨by simp [connectorsOf], fun index hrange hindex => ?_⟩
  rw [List.length_range] at hrange
  have hanchor : index < n.exitAnchors.length := by rwa [Node.length_exitAnchors]
  have hexit : index < n.body.exits.length := by rwa [Body.length_exits]
  simp only [connectorsOf, List.get_eq_getElem, List.getElem_range, List.getElem_mapIdx,
    List.getElem_zip]
  constructor
  case source => rfl
  case index => rfl
  case target => exact List.getElem?_eq_getElem hexit
  case start => exact List.getElem?_eq_getElem hanchor
  case ends =>
    cases hlink : n.body.exits[index] with
    | none => simp
    | some id => simp [Option.isSome_iff_ne_none, node?_eq_none_iff]
  case stop =>
    intro id m hid hm
    simp only at hid
    simp only [hid, Option.bind_some, hm, Option.map_some]

/-- **All views of the exits of a node are of the same exits. The connectors of a graph are one for
each exit of each node, in node and exit order.** -/
theorem exits_agree (n : Node α) (g : Graph α) :
    n.Coherent ∧ List.Forall₂ g.Shows g.exitPlaces g.connectors := by
  refine ⟨n.coherent, forall₂_flatMap fun n hn => ?_⟩
  rw [List.forall₂_map_left_iff]
  exact shows_connectorsOf g n

end Graph

end EventGraph
