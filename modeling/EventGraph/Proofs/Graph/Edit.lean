import EventGraph.Proofs.Graph.Lookup
import Mathlib.Data.List.Nodup

/-!
# Edited graphs

What nodes, places and exits are found in a graph after an edit. With distinct ids, moving a node
changes that node only.
-/

namespace EventGraph

/-- Changing one item so that it maps to `c` sets its place in the mapped list. -/
theorem map_modify_eq_set {β γ : Type} {f : β → β} {k : β → γ} {c : γ} (h : ∀ b, k (f b) = c)
    (l : List β) (i : Nat) : (l.modify i f).map k = (l.map k).set i c := by
  induction l generalizing i with
  | nil => simp
  | cons b rest ih =>
    cases i with
    | zero => simp [h]
    | succ i => simp [ih]

theorem Body.exits_setExit (index : Nat) (target : Option NodeId) (b : Body) :
    (b.setExit index target).exits = b.exits.set index target := by
  cases b with
  | exec e => cases index <;> rfl
  | choice c =>
    exact map_modify_eq_set (f := ({ · with next := target })) (k := ChoiceEntry.next)
      (fun _ => rfl) c.entries index
  | switch s =>
    have hcases := map_modify_eq_set (f := ({ · with next := target })) (k := SwitchCase.next)
      (fun _ => rfl) s.cases index
    simp only [setExit]
    split
    · rename_i hfallback
      simp [exits, hfallback]
    · rename_i hcase
      simp only [exits, hcases, List.set_append, List.length_map]
      split
      · rfl
      · rename_i hlarge
        obtain ⟨k, hk⟩ := Nat.exists_eq_add_of_lt (by omega : s.cases.length < index)
        rw [List.set_eq_of_length_le (by rw [List.length_map]; omega)]
        simp [hk, Nat.add_assoc]
  | terminal | comment text => rfl

theorem modify_eq_self {β : Type} {f : β → β} {l : List β} {i : Nat}
    (h : ∀ b ∈ l[i]?, f b = b) : l.modify i f = l := by
  induction l generalizing i with
  | nil => simp
  | cons b rest ih =>
    cases i with
    | zero => rw [List.modify_zero_cons, h b rfl]
    | succ i => rw [List.modify_succ_cons, ih h]

/-- Pointing an exit at what it leads to changes nothing. -/
theorem Body.setExit_self {index : Nat} {target : Option NodeId} {b : Body}
    (h : b.exits[index]? = some target) : b.setExit index target = b := by
  cases b with
  | exec e =>
    cases index with
    | zero =>
      obtain rfl : e.next = target := Option.some.inj h
      rfl
    | succ index => cases h
  | choice c =>
    have hentries : c.entries.modify index ({ · with next := target }) = c.entries := by
      refine modify_eq_self fun entry hentry => ?_
      simp only [exits, List.getElem?_map, Option.mem_def.mp hentry, Option.map_some] at h
      obtain rfl := Option.some.inj h
      rfl
    simp only [setExit, hentries]
  | switch s =>
    simp only [setExit]
    split
    · rename_i hfallback
      rw [exits, List.getElem?_append_right (by simp [hfallback])] at h
      obtain rfl : s.fallback = target := by simpa [hfallback] using h
      rfl
    · have hcases : s.cases.modify index ({ · with next := target }) = s.cases := by
        refine modify_eq_self fun case hcase => ?_
        obtain ⟨hlt, -⟩ := List.getElem?_eq_some_iff.mp hcase
        rw [exits, List.getElem?_append_left (by simpa using hlt), List.getElem?_map,
          Option.mem_def.mp hcase] at h
        obtain rfl := Option.some.inj h
        rfl
      rw [hcases]
  | terminal | comment text => cases h

namespace Graph

variable {α : Type} {g g' : Graph α} {id other : NodeId} {n m : Node α}

/-! ### Nodes -/

theorem eq_of_id_eq (h : g.DistinctIds) (hn : n ∈ g.nodes) (hm : m ∈ g.nodes)
    (hid : n.id = m.id) : n = m :=
  List.inj_on_of_nodup_map h hn hm hid

theorem node?_of_mem (h : g.DistinctIds) (hn : n ∈ g.nodes) : g.node? n.id = some n := by
  cases hfound : g.node? n.id with
  | none => exact absurd (List.mem_map_of_mem hn) (node?_eq_none_iff.mp hfound)
  | some m => rw [eq_of_id_eq h (mem_of_node? hfound) hn (id_of_node? hfound)]

/-- Changes every node. -/
def mapNodes (f : Node α → Node α) (g : Graph α) : Graph α := { g with nodes := g.nodes.map f }

theorem mapNodes_congr {f f' : Node α → Node α} (h : ∀ n ∈ g.nodes, f n = f' n) :
    g.mapNodes f = g.mapNodes f' := by
  unfold mapNodes
  rw [List.map_congr_left h]

theorem mapNodes_mapNodes (f f' : Node α → Node α) (g : Graph α) :
    (g.mapNodes f).mapNodes f' = g.mapNodes fun n => f' (f n) := by
  simp only [mapNodes, List.map_map, Function.comp_def]

theorem mapNodes_eq_self {f : Node α → Node α} (h : ∀ n ∈ g.nodes, f n = n) :
    g.mapNodes f = g := by
  rw [mapNodes_congr h]
  simp only [mapNodes, List.map_id']

theorem ids_mapNodes {f : Node α → Node α} (hf : ∀ n, (f n).id = n.id) :
    (g.mapNodes f).ids = g.ids := by
  simp only [ids, mapNodes, List.map_map, Function.comp_def, hf]

theorem node?_mapNodes {f : Node α → Node α} (hf : ∀ n, (f n).id = n.id) (id : NodeId) :
    (g.mapNodes f).node? id = (g.node? id).map f := by
  simp only [node?, mapNodes, List.find?_map, Function.comp_def, hf]

theorem moveNode_eq_mapNodes (h : g.DistinctIds) (id : NodeId) (p : Point α) :
    g.moveNode id p = g.mapNodes fun n => if n.id = id then n.moveTo p else n := by
  unfold moveNode
  split
  · rename_i m hm
    refine mapNodes_congr fun n hn => ?_
    have hmid := id_of_node? hm
    by_cases hid : n.id = id
    · rw [eq_of_id_eq h hn (mem_of_node? hm) (hid.trans hmid.symm)]
      simp [Node.moveTo, hmid]
    · simp [Node.moveTo, hmid, hid]
  · rename_i hnone
    refine (mapNodes_eq_self fun n hn => if_neg ?_).symm
    rintro rfl
    exact node?_eq_none_iff.mp hnone (List.mem_map_of_mem hn)

theorem moveNode_of_not_contains (h : g.contains id = false) (p : Point α) :
    g.moveNode id p = g := by
  have hnone : g.node? id = none := by
    rw [node?_eq_none_iff, ← contains_iff, h]
    exact Bool.false_ne_true
  unfold moveNode
  rw [hnone]

/-! ### Removal -/

/-- Takes out a node and leaves the links to it. -/
def dropNode (g : Graph α) (id : NodeId) : Graph α :=
  { g with nodes := g.nodes.eraseP (·.id == id) }

theorem remove_cases (h : g.remove id = some (g', n)) :
    g.node? id = some n ∧ g' = (g.dropNode id).mapNodes fun m => (m.clearLinksTo id).1 := by
  obtain ⟨m, hm, hg⟩ := Option.map_eq_some_iff.mp h
  obtain ⟨rfl, rfl⟩ := Prod.mk.inj hg
  exact ⟨hm, rfl⟩

theorem ids_remove (h : g.remove id = some (g', n)) : g'.ids = g.ids.erase id := by
  obtain ⟨-, rfl⟩ := remove_cases h
  rw [ids_mapNodes (f := fun m => (m.clearLinksTo id).1) fun _ => rfl]
  simp only [ids, dropNode, List.erase_eq_eraseP', List.eraseP_map, Function.comp_def]

theorem DistinctIds.remove (h : g.DistinctIds) (hremove : g.remove id = some (g', n)) :
    g'.DistinctIds := by
  rw [DistinctIds, ids_remove hremove]
  exact h.erase id

theorem not_mem_ids_remove (hids : g.DistinctIds) (h : g.remove id = some (g', n)) :
    id ∉ g'.ids := by
  rw [ids_remove h]
  exact hids.not_mem_erase

theorem node?_dropNode (hne : other ≠ id) : (g.dropNode id).node? other = g.node? other := by
  simp only [node?, dropNode]
  induction g.nodes with
  | nil => rfl
  | cons n rest ih =>
    by_cases hid : n.id = id
    · have hother : ¬ n.id = other := fun h => hne (h.symm.trans hid)
      rw [List.eraseP_cons_of_pos (by simpa using hid),
        List.find?_cons_of_neg (by simpa using hother)]
    · rw [List.eraseP_cons_of_neg (by simpa using hid), List.find?_cons, List.find?_cons, ih]

theorem node?_remove (h : g.remove id = some (g', n)) (hne : other ≠ id) :
    g'.node? other = (g.node? other).map fun m => (m.clearLinksTo id).1 := by
  obtain ⟨-, rfl⟩ := remove_cases h
  rw [node?_mapNodes (f := fun m => (m.clearLinksTo id).1) fun _ => rfl, node?_dropNode hne]

/-! ### Places -/

/-- Where a node is, if it is in the graph. -/
def place? (g : Graph α) (id : NodeId) : Option (Point α) := (g.node? id).map (·.position)

theorem place?_of_mem (h : g.DistinctIds) (hn : n ∈ g.nodes) :
    g.place? n.id = some n.position := by
  rw [place?, node?_of_mem h hn]
  rfl

theorem mem_ids_of_place? {p : Point α} (h : g.place? id = some p) : id ∈ g.ids := by
  obtain ⟨n, hn, -⟩ := Option.map_eq_some_iff.mp h
  exact mem_ids_of_node? hn

/-- Removing a node leaves the others where they are. -/
theorem place?_remove (hids : g.DistinctIds) (h : g.remove id = some (g', n)) {p : Point α}
    (hp : g'.place? other = some p) : other ≠ id ∧ g.place? other = some p := by
  have hne : other ≠ id := by
    rintro rfl
    exact not_mem_ids_remove hids h (mem_ids_of_place? hp)
  rw [place?, node?_remove h hne, Option.map_map] at hp
  exact ⟨hne, hp⟩

/-! ### Exits -/

/-- What an exit leads to, if there is such an exit: nothing, or an id. -/
def target? (g : Graph α) (node : NodeId) (index : Nat) : Option (Option NodeId) :=
  (g.node? node).bind fun n => n.body.exits[index]?

theorem target?_eq_some_iff {node : NodeId} {index : Nat} {target : Option NodeId} :
    g.target? node index = some target ↔
      ∃ n, g.node? node = some n ∧ n.body.exits[index]? = some target :=
  Option.bind_eq_some_iff

theorem target?_mapNodes {f : Node α → Node α} (hid : ∀ n, (f n).id = n.id)
    (hbody : ∀ n, (f n).body = n.body) (node : NodeId) (index : Nat) :
    (g.mapNodes f).target? node index = g.target? node index := by
  simp only [target?, node?_mapNodes hid, Option.bind_map, Function.comp_def, hbody]

/-- An exit that there is can be linked and unlinked. -/
theorem setExit_of_target? {node : NodeId} {index : Nat} {previous : Option NodeId}
    (h : g.target? node index = some previous) (target : Option NodeId) :
    ∃ g', g.setExit node index target = .ok (g', previous) := by
  obtain ⟨n, hn, hexit⟩ := target?_eq_some_iff.mp h
  simp only [setExit, hn, Node.setExit, hexit]
  exact ⟨_, rfl⟩

theorem DistinctIds.setExit (h : g.DistinctIds) {node : NodeId} {index : Nat}
    {target previous : Option NodeId} (hset : g.setExit node index target = .ok (g', previous)) :
    g'.DistinctIds := by
  rw [DistinctIds, ids_setExit hset]
  exact h

theorem setExit_cases {node : NodeId} {index : Nat} {target previous : Option NodeId}
    (h : g.setExit node index target = .ok (g', previous)) :
    ∃ n, g.node? node = some n ∧ n.body.exits[index]? = some previous ∧
      g' = g.replace { n with body := n.body.setExit index target } := by
  unfold setExit at h
  split at h
  · cases h
  · rename_i n hn
    unfold Node.setExit at h
    split at h
    · rename_i hexit
      cases h
      exact ⟨n, hn, hexit, rfl⟩
    · cases h

theorem setLink_cases {source target : NodeId} {index : Nat} {previous : Option NodeId}
    (h : g.setLink source index target = .ok (g', previous)) :
    target ∈ g.ids ∧ g.setExit source index (some target) = .ok (g', previous) := by
  unfold setLink at h
  split at h
  · rename_i hcontains
    exact ⟨contains_iff.mp hcontains, h⟩
  · cases h

/-- Pointing an exit at what it leads to changes nothing. -/
theorem setExit_self (hids : g.DistinctIds) {node : NodeId} {index : Nat}
    {target : Option NodeId} (h : g.setExit node index target = .ok (g', target)) : g' = g := by
  obtain ⟨n, hn, hexit, rfl⟩ := setExit_cases h
  rw [Body.setExit_self hexit]
  refine mapNodes_eq_self fun m hm => ?_
  split
  · rename_i hid
    exact (eq_of_id_eq hids hm (mem_of_node? hn) hid).symm
  · rfl

/-- Linking an exit, or unlinking it, changes the body of its node. -/
theorem node?_setExit {node : NodeId} {index : Nat} {target previous : Option NodeId}
    (h : g.setExit node index target = .ok (g', previous)) (id : NodeId) :
    g'.node? id = (g.node? id).map fun m =>
      if m.id = node then { m with body := m.body.setExit index target } else m := by
  obtain ⟨n, hn, -, rfl⟩ := setExit_cases h
  have hkeeps (m : Node α) :
      (if m.id = n.id then { n with body := n.body.setExit index target } else m).id = m.id := by
    split
    · rename_i hid
      exact hid.symm
    · rfl
  refine (node?_mapNodes hkeeps id).trans ?_
  cases hm : g.node? id with
  | none => rfl
  | some m =>
    simp only [Option.map_some, id_of_node? hn, id_of_node? hm]
    by_cases hid : id = node
    · subst hid
      obtain rfl := Option.some.inj (hm.symm.trans hn)
      rfl
    · simp only [if_neg hid]

/-- Linking an exit, or unlinking it, leaves all other exits as they are. -/
theorem target?_setExit {node other : NodeId} {index place : Nat}
    {target previous : Option NodeId} (h : g.setExit node index target = .ok (g', previous)) :
    g'.target? other place =
      if other = node ∧ place = index then some target else g.target? other place := by
  obtain ⟨n, hn, hexit, -⟩ := setExit_cases h
  obtain ⟨hlt, -⟩ := List.getElem?_eq_some_iff.mp hexit
  simp only [target?, node?_setExit h]
  by_cases hother : other = node
  · subst hother
    rw [hn, Option.map_some, if_pos (id_of_node? hn), Option.bind_some, Option.bind_some,
      Body.exits_setExit, List.getElem?_set]
    by_cases hplace : index = place
    · rw [if_pos hplace, if_pos hlt, if_pos ⟨rfl, hplace.symm⟩]
    · rw [if_neg hplace, if_neg fun hboth => hplace hboth.2.symm]
  · simp only [hother, false_and, if_false]
    cases hm : g.node? other with
    | none => rfl
    | some m => simp only [Option.map_some, Option.bind_some, id_of_node? hm, if_neg hother]

theorem place?_setExit {node : NodeId} {index : Nat} {target previous : Option NodeId}
    (h : g.setExit node index target = .ok (g', previous)) (id : NodeId) :
    g'.place? id = g.place? id := by
  simp only [place?, node?_setExit h, Option.map_map]
  congr 1
  funext m
  simp only [Function.comp]
  split <;> rfl

theorem target?_remove (h : g.remove id = some (g', n)) (hne : other ≠ id) (index : Nat) :
    g'.target? other index =
      (g.target? other index).map fun t => if t = some id then none else t := by
  simp only [target?, node?_remove h hne, Option.bind_map, Option.map_bind, Function.comp_def]
  congr 1
  funext m
  simp only [Node.clearLinksTo, Body.exits_mapExits, List.getElem?_map]

end Graph
end EventGraph
