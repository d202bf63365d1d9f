import EventGraph.Proofs.Graph.History
import EventGraph.Proofs.Graph.Links
import EventGraph.Proofs.Graph.Loading

/-!
# Integrity of edited graphs

Whatever is added, removed, linked and unlinked, and whatever of that fails, no link of a graph
dangles and its nodes are in the order in which they came in.
-/

namespace EventGraph.Graph

variable {α : Type} {g g' : Graph α} {edit : Edit α} {n : Node α} {id node : NodeId}
  {index : Nat} {error : GraphError}

/-! ### What every edit keeps -/

/-- Ids are distinct, and every link leads to a node of the graph. -/
structure Intact (g : Graph α) : Prop where
  distinct : g.DistinctIds
  linked : ∀ n ∈ g.nodes, ∀ id, some id ∈ n.body.exits → id ∈ g.ids

theorem validateTargets_eq_nil_iff :
    g.validateTargets = [] ↔ ∀ n ∈ g.nodes, ∀ id, some id ∈ n.body.exits → id ∈ g.ids := by
  simp only [validateTargets, List.flatMap_eq_nil_iff, missingTargets_eq_nil_iff]

namespace Intact

theorem append (h : Intact g) (hfresh : n.id ∉ g.ids) (hadmissible : (Edit.add n).Admissible g) :
    Intact { g with nodes := g.nodes ++ [n] } where
  distinct := h.distinct.append hfresh
  linked m hm id hid := by
    rw [ids_append, List.mem_append, List.mem_singleton]
    obtain hold | hnew := List.mem_append.mp hm
    · exact .inl (h.linked m hold id hid)
    · obtain rfl := List.mem_singleton.mp hnew
      exact (hadmissible id hid).symm

theorem remove (h : Intact g) (hremove : g.remove id = some (g', n)) : Intact g' where
  distinct := h.distinct.remove hremove
  linked m hm target htarget := by
    rw [ids_remove hremove]
    obtain ⟨-, rfl⟩ := remove_cases hremove
    obtain ⟨old, hold, rfl⟩ := List.mem_map.mp hm
    rw [Node.clearLinksTo, Body.exits_mapExits] at htarget
    obtain ⟨link, hlink, hkept⟩ := List.mem_map.mp htarget
    split at hkept
    · cases hkept
    · rename_i hne
      subst hkept
      have hthere := h.linked old (List.mem_of_mem_eraseP hold) target hlink
      refine (List.mem_erase_of_ne ?_).mpr hthere
      rintro rfl
      exact hne rfl

theorem setExit {target previous : Option NodeId} (h : Intact g)
    (htarget : ∀ id, target = some id → id ∈ g.ids)
    (hset : g.setExit node index target = .ok (g', previous)) : Intact g' where
  distinct := h.distinct.setExit hset
  linked m hm id hid := by
    rw [ids_setExit hset]
    obtain ⟨n, hn, -, rfl⟩ := setExit_cases hset
    obtain ⟨old, hold, rfl⟩ := List.mem_map.mp hm
    split at hid
    · rw [Body.exits_setExit] at hid
      obtain hkept | hnew := List.mem_or_eq_of_mem_set hid
      · exact h.linked n (mem_of_node? hn) id hkept
      · exact htarget id hnew.symm
    · exact h.linked old hold id hid

theorem perform (h : Intact g) (hadmissible : edit.Admissible g)
    (hrun : edit.perform.run g = .ok () g') : Intact g' := by
  cases edit with
  | add n =>
    obtain ⟨hfresh, rfl⟩ := run_add_eq_ok_iff.mp hrun
    exact h.append hfresh hadmissible
  | remove id =>
    obtain ⟨removed, hremove⟩ | ⟨-, rfl⟩ := run_remove_eq_ok_iff.mp hrun
    · exact h.remove hremove
    · exact h
  | setLink source index target =>
    obtain ⟨htarget, previous, hset⟩ := run_setLink_eq_ok_iff.mp hrun
    refine h.setExit (fun id hid => ?_) hset
    exact Option.some.inj hid ▸ htarget
  | clearLink node index =>
    obtain ⟨previous, hset⟩ := run_clearLink_eq_ok_iff.mp hrun
    refine h.setExit (fun id hid => ?_) hset
    cases hid

end Intact

/-! ### Graphs that are edited -/

/-- What an edit that is done brings in and takes out. -/
def Edit.changes : Edit α → List Change
  | add n => [.added n.id]
  | remove id => [.removed id]
  | setLink _ _ _ | clearLink _ _ => []

/-- The graphs that edits lead to, with what has happened to their nodes. They begin empty, or as
the graph of a document in which no target is missing. -/
inductive Reachable [Scalar α] : Graph α → List Change → Prop
  | empty (name : String) (declarations : List Variable) : Reachable { name, declarations } []
  | ofDocument {m : Measurer α} {d : Document α} {g : Graph α} : Graph.ofDocument m d = .ok g →
      g.validateTargets = [] → Reachable g (d.nodes.map (.added ·.id))
  | done {g g' : Graph α} {history : List Change} (edit : Edit α) : Reachable g history →
      edit.Admissible g → edit.perform.run g = .ok () g' → Reachable g' (history ++ edit.changes)
  | failed {g g' : Graph α} {history : List Change} {error : GraphError} (edit : Edit α) :
      Reachable g history → edit.Admissible g → edit.perform.run g = .error error g' →
      Reachable g' history

variable {history : List Change}

theorem LeadsTo.perform (h : LeadsTo history g.ids) (hdistinct : g.DistinctIds)
    (hrun : edit.perform.run g = .ok () g') : LeadsTo (history ++ edit.changes) g'.ids := by
  cases edit with
  | add n =>
    obtain ⟨hfresh, rfl⟩ := run_add_eq_ok_iff.mp hrun
    rw [ids_append]
    exact h.add hfresh
  | remove id =>
    have herased : g'.ids = g.ids.erase id := by
      obtain ⟨removed, hremove⟩ | ⟨habsent, rfl⟩ := run_remove_eq_ok_iff.mp hrun
      · exact ids_remove hremove
      · exact (List.erase_of_not_mem habsent).symm
    rw [herased]
    exact h.remove hdistinct id
  | setLink source index target =>
    obtain ⟨-, previous, hset⟩ := run_setLink_eq_ok_iff.mp hrun
    rw [ids_setExit hset, Edit.changes, List.append_nil]
    exact h
  | clearLink node index =>
    obtain ⟨previous, hset⟩ := run_clearLink_eq_ok_iff.mp hrun
    rw [ids_setExit hset, Edit.changes, List.append_nil]
    exact h

theorem Reachable.intact [Scalar α] (h : Reachable g history) :
    Intact g ∧ LeadsTo history g.ids := by
  induction h with
  | empty name declarations => exact ⟨⟨List.nodup_nil, fun n hn => nomatch hn⟩, .nil⟩
  | @ofDocument m d g hdocument htargets =>
    obtain ⟨hids, hdistinct⟩ := ids_ofDocument hdocument
    have hleads := LeadsTo.ofNodup hdistinct
    rw [hids, Document.ids, List.map_map] at hleads
    rw [hids]
    exact ⟨⟨hdistinct, validateTargets_eq_nil_iff.mp htargets⟩, hleads⟩
  | done edit _ hadmissible hrun ih =>
    obtain ⟨hintact, hleads⟩ := ih
    exact ⟨hintact.perform hadmissible hrun, hleads.perform hintact.distinct hrun⟩
  | failed edit _ _ hrun ih =>
    obtain ⟨rfl, -⟩ := run_perform_eq_error_iff.mp hrun
    exact ih

/-- **However a graph is edited, its ids are distinct, each of its nodes is found under its own id,
no link dangles, and its nodes are those that came in and were not taken out again, in the order
in which they came in. An edit of it that fails does so for one of the known reasons, and leaves
it as it is.** -/
theorem integrity_of_reachable [Scalar α] (h : Reachable g history) :
    g.DistinctIds ∧ (∀ id n, g.node? id = some n ↔ n ∈ g.nodes ∧ n.id = id) ∧
    g.validateTargets = [] ∧ (∀ ids, LeadsTo history ids ↔ ids = g.ids) ∧
    ∀ (edit : Edit α) (error : GraphError) (g' : Graph α),
      edit.perform.run g = .error error g' ↔ g' = g ∧ Refused g edit error := by
  obtain ⟨⟨hdistinct, hlinked⟩, hleads⟩ := h.intact
  refine ⟨hdistinct, fun id n => ⟨fun hfound => ?_, ?_⟩, validateTargets_eq_nil_iff.mpr hlinked,
    fun ids => ⟨fun h => h.unique hleads, ?_⟩, fun edit error g' => run_perform_eq_error_iff⟩
  · exact ⟨mem_of_node? hfound, id_of_node? hfound⟩
  · rintro ⟨hn, rfl⟩
    exact node?_of_mem hdistinct hn
  · rintro rfl
    exact hleads

/-- An inn of two rooms that lead to each other. -/
def inn : Document Rat := { nodes := [
  .create "hall" (.exec { next := some "door" }), .create "door" (.exec { next := some "hall" })] }

/-- A hall that leads round in itself. -/
def newHall : Node Rat := .create "hall" (.exec { next := some "hall" })

theorem integrity_of_reachable_inn :
    ∃ g : Graph Rat, Reachable g [.added "hall", .added "door", .removed "hall", .added "hall"] ∧
      g.nodes.map (fun n => (n.id, n.body.exits)) =
        [("door", [some "hall"]), ("hall", [some "hall"])] ∧
      g.DistinctIds ∧ g.validateTargets = [] ∧
      LeadsTo [.added "hall", .added "door", .removed "hall", .added "hall"] ["door", "hall"] ∧
      (Edit.setLink "door" 1 "hall").perform.run g = .error (.exitOutOfRange "door" 1) g := by
  have hinn : Graph.ofDocument .standard inn =
    .ok { name := "", nodes := inn.nodes.map (·.layOut .standard) } := rfl
  have hstart := Reachable.ofDocument hinn (by decide +kernel)
  have hremoved := Reachable.done (.remove "hall") hstart trivial rfl
  have hfailed := Reachable.failed (.setLink "door" 0 "hall") hremoved trivial rfl
  have hadded := Reachable.done (.add newHall) hfailed
    (fun id hid => .inl (Option.some.inj (List.mem_singleton.mp hid))) rfl
  have hlinked := Reachable.done (.setLink "door" 0 "hall") hadded trivial rfl
  obtain ⟨hdistinct, -, htargets, hleads, herror⟩ := integrity_of_reachable hlinked
  refine ⟨_, hlinked, rfl, hdistinct, htargets, (hleads _).mpr rfl, (herror _ _ _).mpr ⟨rfl, ?_⟩⟩
  exact .link (by decide +kernel) (.outOfRange rfl (by decide +kernel))

end EventGraph.Graph
