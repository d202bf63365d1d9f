import EventGraph.Proofs.Graph.InPlace
import EventGraph.Proofs.Node.Exits
import Mathlib.Data.List.Forall2

/-!
# Removal

Taking a node out of a graph unlinks the exits that led to it and does nothing else: the other
nodes keep their order, and each of them all that it holds and all its other links.
-/

namespace EventGraph

variable {α : Type}

/-- A node as it was, but for its links to `id`, which are gone. -/
structure Node.CutOff [Scalar α] (id : NodeId) (n n' : Node α) : Prop where
  -- Id, place and heights, texts, scripts and conditions, and how many exits there are.
  bare : n'.bare = n.bare
  anchors : n'.exitAnchors = n.exitAnchors
  exits : n'.body.exits = n.body.exits.map (without id)
  -- Its exits have been gone through one by one.
  inPlace : (Node.InPlace.clearLinksTo id).run n = .ok (n.body.exits.count (some id)) n'

theorem Node.CutOff.of_clearLinksTo [Scalar α] (id : NodeId) (n : Node α) :
    CutOff id n (n.clearLinksTo id).1 where
  bare := bare_clearLinksTo n id
  anchors := by rw [← exitAnchors_bare, bare_clearLinksTo, exitAnchors_bare]
  exits := exits_clearLinksTo n id
  inPlace := run_clearLinksTo n id

namespace Graph

variable {g g' : Graph α} {id : NodeId} {n : Node α}

/-- What is left of a graph when one of its nodes is taken out. -/
structure Without [Scalar α] (g : Graph α) (id : NodeId) (g' : Graph α) : Prop where
  name : g'.name = g.name
  declarations : g'.declarations = g.declarations
  nodes : List.Forall₂ (Node.CutOff id) (g.nodes.filter (·.id ≠ id)) g'.nodes

theorem eraseP_id_eq_filter (h : g.DistinctIds) (id : NodeId) :
    g.nodes.eraseP (·.id == id) = g.nodes.filter (·.id ≠ id) := by
  obtain ⟨_, nodes, _⟩ := g
  simp only [DistinctIds, ids] at h ⊢
  induction nodes with
  | nil => rfl
  | cons n rest ih =>
    obtain ⟨hfresh, hrest⟩ := List.nodup_cons.mp h
    by_cases hid : n.id = id
    · subst hid
      rw [List.eraseP_cons_of_pos (by simp), List.filter_cons_of_neg (by simp)]
      refine (List.filter_eq_self.mpr fun m hm => ?_).symm
      have hne : m.id ≠ n.id := fun hsame => hfresh (List.mem_map.mpr ⟨m, hm, hsame⟩)
      simpa using hne
    · rw [List.eraseP_cons_of_neg (by simpa using hid),
        List.filter_cons_of_pos (by simpa using hid), ih hrest]

theorem Without.of_remove [Scalar α] (hids : g.DistinctIds)
    (h : g.remove id = some (g', n)) : g.Without id g' := by
  obtain ⟨-, rfl⟩ := remove_cases h
  refine ⟨rfl, rfl, ?_⟩
  simp only [mapNodes, dropNode, eraseP_id_eq_filter hids]
  rw [List.forall₂_map_right_iff, List.forall₂_same]
  exact fun m _ => .of_clearLinksTo id m

/-- **A node that is removed is given back, and the graph that is left is the one without it and
without the links to it. Where there is no such node, nothing is given back and nothing changes,
whatever the exits name.** -/
theorem remove_exact [Scalar α] (hids : g.DistinctIds) (id : NodeId) :
    (∀ n ∈ g.nodes, n.id = id → ∃ g', g.remove id = some (g', n) ∧
      (InPlace.remove id).run g = .ok (some n) g' ∧ g.Without id g') ∧
    (id ∉ g.ids → g.remove id = none ∧ (InPlace.remove id).run g = .ok none g) := by
  constructor
  · rintro n hn rfl
    have hremove : g.remove n.id = some
        ((g.dropNode n.id).mapNodes fun m => (m.clearLinksTo n.id).1, n) := by
      rw [remove, node?_of_mem hids hn]
      rfl
    refine ⟨_, hremove, ?_, .of_remove hids hremove⟩
    rw [run_remove, hremove]
  · intro habsent
    have hremove : g.remove id = none := by
      rw [remove, node?_eq_none_iff.mpr habsent]
      rfl
    refine ⟨hremove, ?_⟩
    rw [run_remove, hremove]

/-- Doors that lead on to a cellar, and one to an attic that is not there. -/
def house : Graph Rat := { nodes := [
  .create "hall" (.switch ⟨[⟨"dark", some "cellar"⟩, ⟨"high", some "attic"⟩], some "cellar"⟩),
  .create "cellar" (.exec { text := "Cold.", next := some "hall" }),
  .create "porch" (.choice ⟨"Well?",
    [{ text := "in", next := some "hall" }, { text := "down", next := some "cellar" }]⟩)] }

theorem remove_exact_house :
    ∃ g', house.remove "cellar" = some (g', .create "cellar"
        (.exec { text := "Cold.", next := some "hall" })) ∧
      house.Without "cellar" g' ∧
      g'.nodes.map (fun n => (n.id, n.body.exits)) =
        [("hall", [none, some "attic", none]), ("porch", [some "hall", none])] ∧
      (InPlace.remove "attic").run house = .ok none house := by
  have hids : house.DistinctIds := by
    unfold DistinctIds
    decide +kernel
  obtain ⟨g', hremove, -, hwithout⟩ :=
    (remove_exact hids "cellar").1 _ (List.mem_cons_of_mem _ List.mem_cons_self) rfl
  obtain ⟨-, habsent⟩ := (remove_exact hids "attic").2 (by decide +kernel)
  refine ⟨g', hremove, hwithout, ?_, habsent⟩
  cases hremove
  decide +kernel

end Graph

end EventGraph
