import EventGraph.Proofs.Graph.Paths
import EventGraph.Proofs.Playback.Walk
import Mathlib.Data.List.Chain

/-!
# The path of a move

A passed node is left along one of its own exits, so the nodes that a move passes make a path
through the graph, and whatever is on offer leads along an exit too.
-/

namespace EventGraph.Story

open Playback

variable {α : Type} {story : Story α} {s s' : State}

theorem next_mem_exits {n : Node α} {e : Exec} (hb : n.body = .exec e) :
    e.next ∈ n.body.exits := by
  simp [hb, Body.exits]

/-- A passed node is executed or branches, and the target it is left for is among its exits. -/
theorem Passes.exit {id : NodeId} {t : Option NodeId} (h : story.Passes s id t s') :
    ∃ n, story.graph.node? id = some n ∧ (n.kind = .exec ∨ n.kind = .switch) ∧
      t ∈ n.body.exits := by
  cases h with
  | @exec n e storage hn hb =>
    refine ⟨n, hn, .inl ?_, next_mem_exits hb⟩
    rw [Node.kind, hb, Body.kind]
  | @taken n b before after c hn hb hcases =>
    refine ⟨n, hn, .inr ?_, ?_⟩
    · rw [Node.kind, hb, Body.kind]
    · simp [hb, Body.exits, hcases]
  | @fallback n b hn hb =>
    refine ⟨n, hn, .inr ?_, ?_⟩
    · rw [Node.kind, hb, Body.kind]
    · simp [hb, Body.exits]

theorem Passes.passage {source target : NodeId} (h : story.Passes s source (some target) s') :
    story.graph.Passage source target := h.exit

/-- What is closed under the exits of nodes is kept on the way to a target. -/
theorem Passes.along {P : Option NodeId → Prop} {id : NodeId} {t : Option NodeId}
    (h : story.Passes s id t s') (hP : story.graph.Closed P) (hid : P (some id)) :
    P t ∧ P s'.current := by
  obtain ⟨n, hn, _, ht⟩ := h.exit
  refine ⟨hP id n t hn ht hid, ?_⟩
  cases h <;> exact hid

theorem Chain.along {P : Option NodeId → Prop} {k : Nat} {t u : Option NodeId}
    (h : story.Chain k t s u s') (hP : story.graph.Closed P) (ht : P t) :
    P u ∧ (P s.current → P s'.current) := by
  induction h with
  | here => exact ⟨ht, fun hs => hs⟩
  | pass hp _ ih =>
    obtain ⟨hnext, hcurrent⟩ := hp.along hP ht
    obtain ⟨hu, hlast⟩ := ih hnext
    exact ⟨hu, fun _ => hlast hcurrent⟩

/-- What is on offer leads where the entries of the choice do. -/
theorem Sifts.next_mem {place : Nat} {entries : List ChoiceEntry} {offers : List Offer}
    {causes : List Cause} (h : story.Sifts s place entries offers causes) {o : Offer}
    (ho : o ∈ offers) : o.next ∈ entries.map (·.next) := by
  induction h with
  | nil => cases ho
  | offered _ _ ih =>
    rcases List.mem_cons.mp ho with rfl | hrest
    · exact List.mem_cons_self
    · exact List.mem_cons_of_mem _ (ih hrest)
  | hidden _ _ ih | faulty _ _ ih => exact List.mem_cons_of_mem _ (ih ho)

theorem Sifts.next_mem_exits {place : Nat} {n : Node α} {c : Choice} {offers : List Offer}
    {causes : List Cause} (h : story.Sifts s place c.entries offers causes)
    (hb : n.body = .choice c) {o : Offer} (ho : o ∈ offers) : o.next ∈ n.body.exits := by
  rw [hb]
  exact h.next_mem ho

/-- The nodes passed on the way to a target, in order, and then the target. -/
theorem Chain.path {k : Nat} {t : Option NodeId} {target : NodeId}
    (h : story.Chain k t s (some target) s') :
    ∃ path : List NodeId, path.length = k ∧ path ⊆ story.graph.ids ∧
      (path ++ [target]).head? = t ∧ (path ++ [target]).IsChain story.graph.Passage := by
  generalize hu : some target = u at h
  induction h with
  | here => exact ⟨[], rfl, List.nil_subset _, by simpa using hu, List.IsChain.singleton target⟩
  | @pass k id t u s s' s'' hp _ ih =>
    obtain ⟨path, hlength, hids, hhead, hchain⟩ := ih hu
    obtain ⟨n, hn, _⟩ := hp.exit
    refine ⟨id :: path, by rw [List.length_cons, hlength], ?_, rfl, ?_⟩
    · exact List.cons_subset.mpr ⟨Graph.mem_ids_of_node? hn, hids⟩
    · refine hchain.cons fun next hnext => ?_
      obtain rfl : t = some next := hhead.symm.trans hnext
      exact hp.passage

end EventGraph.Story
