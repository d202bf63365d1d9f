import EventGraph.Proofs.Graph.Lookup
import Mathlib.Data.List.Nodup
import Mathlib.Data.List.Perm.Subperm
import Mathlib.Logic.Relation

/-!
# Paths through a graph

Exits lead from id to id. What they lead to from the entry node is where a play-through can
come; a path over executed nodes and switches that is longer than the graph leads in a loop.
-/

namespace EventGraph.Graph

variable {α : Type} {g : Graph α}

/-- An exit of the first node names the second id, whether or not a node has it. -/
def Links (g : Graph α) (source target : NodeId) : Prop :=
  ∃ n, g.node? source = some n ∧ some target ∈ n.body.exits

/-- The exits of some nodes lead from the entry node to an id. -/
def Reaches (g : Graph α) (id : NodeId) : Prop :=
  ∃ entry, g.startId? = some entry ∧ Relation.ReflTransGen g.Links entry id

theorem Reaches.links {source target : NodeId} (h : g.Reaches source)
    (hlink : g.Links source target) : g.Reaches target := by
  obtain ⟨entry, hentry, hpath⟩ := h
  exact ⟨entry, hentry, hpath.tail hlink⟩

/-- What is true of an id is true of all targets of its node. -/
def Closed (g : Graph α) (P : Option NodeId → Prop) : Prop :=
  ∀ (id : NodeId) (n : Node α) (t : Option NodeId),
    g.node? id = some n → t ∈ n.body.exits → P (some id) → P t

/-- A target is reached if there is one. -/
def Within (g : Graph α) (t : Option NodeId) : Prop := ∀ id, t = some id → g.Reaches id

theorem within_startId? (g : Graph α) : g.Within g.startId? := fun id hid => ⟨id, hid, .refl⟩

theorem closed_within (g : Graph α) : g.Closed g.Within := by
  rintro id n t hn ht hid target rfl
  exact (hid id rfl).links ⟨n, hn, ht⟩

/-- An exit of an executed node or of a switch, which is left without being shown. -/
def Passage (g : Graph α) (source target : NodeId) : Prop :=
  ∃ n, g.node? source = some n ∧ (n.kind = .exec ∨ n.kind = .switch) ∧
    some target ∈ n.body.exits

/-- Executed nodes and switches only lead from some node back to it. -/
def Loops (g : Graph α) : Prop := ∃ id, Relation.TransGen g.Passage id id

/-- A chain on which an item comes twice leads from that item back to it. -/
theorem exists_transGen_of_not_nodup {β : Type} {r : β → β → Prop} {path : List β}
    (hchain : path.IsChain r) (htwice : ¬ path.Nodup) : ∃ b, Relation.TransGen r b b := by
  rw [List.nodup_iff_sublist, not_forall_not] at htwice
  obtain ⟨b, hb⟩ := htwice
  have hordered : path.Pairwise (Relation.TransGen r) :=
    List.isChain_iff_pairwise.mp (hchain.imp fun _ _ => .single)
  exact ⟨b, List.pairwise_pair.mp (hordered.sublist hb)⟩

/-- There are not enough nodes for a longer path to come to each of them once only. -/
theorem loops_of_isChain {path : List NodeId} (hchain : path.IsChain g.Passage)
    (hids : path ⊆ g.ids) (hlong : g.nodes.length < path.length) : g.Loops := by
  refine exists_transGen_of_not_nodup hchain fun hnodup => ?_
  have hle := (List.subperm_of_subset hnodup hids).length_le
  rw [ids, List.length_map] at hle
  omega

end EventGraph.Graph
