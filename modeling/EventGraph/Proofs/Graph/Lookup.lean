import EventGraph.Graph.Basic

/-!
# Looking up nodes

What a look-up by id says of the nodes, and which ids stay in a graph that is edited.
-/

namespace EventGraph.Graph

variable {α : Type} {g g' : Graph α} {id : NodeId} {n : Node α}

theorem id_of_node? (h : g.node? id = some n) : n.id = id := by
  have hn := List.find?_some h
  simpa only [beq_iff_eq] using hn

theorem mem_of_node? (h : g.node? id = some n) : n ∈ g.nodes := List.mem_of_find?_eq_some h

theorem mem_ids_of_node? (h : g.node? id = some n) : id ∈ g.ids := by
  rw [← id_of_node? h]
  exact List.mem_map_of_mem (mem_of_node? h)

theorem node?_eq_none_iff : g.node? id = none ↔ id ∉ g.ids := by
  simp [node?, ids]

theorem contains_iff : g.contains id = true ↔ id ∈ g.ids := by
  simp [contains, ids]

/-! ### Ids of edited graphs -/

@[simp] theorem ids_moveNode (g : Graph α) (id : NodeId) (p : Point α) :
    (g.moveNode id p).ids = g.ids := by
  unfold moveNode
  split
  · exact ids_replace g _
  · rfl

theorem ids_setExit {node : NodeId} {index : Nat} {target previous : Option NodeId}
    (h : g.setExit node index target = .ok (g', previous)) : g'.ids = g.ids := by
  unfold setExit at h
  split at h
  · cases h
  · rename_i n _
    cases hn : n.setExit index target with
    | error e => rw [hn] at h; cases h
    | ok r => rw [hn] at h; cases h; exact ids_replace g r.1

theorem ids_clearLink {node : NodeId} {index : Nat} {previous : Option NodeId}
    (h : g.clearLink node index = .ok (g', previous)) : g'.ids = g.ids := ids_setExit h

theorem ids_setLink {source target : NodeId} {index : Nat} {previous : Option NodeId}
    (h : g.setLink source index target = .ok (g', previous)) : g'.ids = g.ids := by
  unfold setLink at h
  split at h
  · exact ids_setExit h
  · cases h

/-- Removing a node takes no other id from the graph. -/
theorem mem_ids_remove {removed : NodeId} (h : g.remove removed = some (g', n))
    (hid : id ∈ g.ids) (hne : id ≠ removed) : id ∈ g'.ids := by
  obtain ⟨m, hm, rfl⟩ := List.mem_map.mp hid
  obtain ⟨k, _, hk⟩ := Option.map_eq_some_iff.mp h
  obtain ⟨rfl, _⟩ := Prod.mk.inj hk
  have hrest : m ∈ g.nodes.eraseP (·.id == removed) :=
    (List.mem_eraseP_of_neg (by simpa using hne)).mpr hm
  have hclear : (m.clearLinksTo removed).1.id = m.id := rfl
  rw [← hclear]
  exact List.mem_map_of_mem (List.mem_map_of_mem hrest)

end EventGraph.Graph
