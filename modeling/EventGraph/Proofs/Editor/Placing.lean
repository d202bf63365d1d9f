import EventGraph.Proofs.Editor.Operation
import EventGraph.Proofs.Graph.Edit

/-!
# Placed nodes

A drag, its end and its cancellation all put listed nodes at listed places. Where a node then is
follows from the list alone, so that placing the same nodes again undoes it.
-/

namespace EventGraph

variable {α : Type}

/-- The last place listed for an id, or `p` without one. -/
def placeOf (id : NodeId) : List (NodeId × Point α) → Point α → Point α
  | [], p => p
  | (other, q) :: rest, p => placeOf id rest (if id = other then q else p)

section placeOf

variable {id : NodeId} {places : List (NodeId × Point α)} {p q : Point α}

theorem placeOf_of_not_mem (h : id ∉ places.map (·.1)) : placeOf id places p = p := by
  induction places with
  | nil => rfl
  | cons place rest ih =>
    rw [List.map_cons, List.mem_cons, not_or] at h
    rw [placeOf, if_neg h.1, ih h.2]

/-- Where a listed node was does not matter. -/
theorem placeOf_of_mem (h : id ∈ places.map (·.1)) : placeOf id places p = placeOf id places q := by
  induction places generalizing p q with
  | nil => cases h
  | cons place rest ih =>
    by_cases hid : id = place.1
    · rw [placeOf, placeOf, if_pos hid, if_pos hid]
    · rw [List.map_cons, List.mem_cons] at h
      exact ih (h.resolve_left hid)

theorem placeOf_eq_or_mem (id : NodeId) (places : List (NodeId × Point α)) (p : Point α) :
    placeOf id places p = p ∨ (id, placeOf id places p) ∈ places := by
  induction places generalizing p with
  | nil => exact .inl rfl
  | cons place rest ih =>
    rw [placeOf]
    rcases ih (if id = place.1 then place.2 else p) with heq | hmem
    · rw [heq]
      split
      · rename_i hid
        exact .inr (hid ▸ List.mem_cons_self)
      · exact .inl rfl
    · exact .inr (List.mem_cons_of_mem _ hmem)

theorem placeOf_filter_ne {removed : NodeId} (hne : id ≠ removed) :
    placeOf id (places.filter (·.1 ≠ removed)) p = placeOf id places p := by
  induction places generalizing p with
  | nil => rfl
  | cons place rest ih =>
    by_cases hplace : place.1 = removed
    · have hid : ¬ id = place.1 := fun h => hne (h.trans hplace)
      rw [List.filter_cons_of_neg (by simpa using hplace), placeOf, if_neg hid, ih]
    · rw [List.filter_cons_of_pos (by simpa using hplace), placeOf, placeOf, ih]

end placeOf

/-- Puts a node at the last place listed for it, if there is one. -/
def Node.placed (places : List (NodeId × Point α)) (n : Node α) : Node α :=
  n.moveTo (placeOf n.id places n.position)

theorem Node.id_placed (places : List (NodeId × Point α)) (n : Node α) :
    (n.placed places).id = n.id := rfl

theorem Node.body_placed (places : List (NodeId × Point α)) (n : Node α) :
    (n.placed places).body = n.body := rfl

theorem Node.placed_placed {earlier later : List (NodeId × Point α)}
    (h : ∀ id ∈ earlier.map (·.1), id ∈ later.map (·.1)) (n : Node α) :
    (n.placed earlier).placed later = n.placed later := by
  have hplace : placeOf n.id later (placeOf n.id earlier n.position) =
      placeOf n.id later n.position := by
    by_cases hmem : n.id ∈ earlier.map (·.1)
    · exact placeOf_of_mem (h n.id hmem)
    · rw [placeOf_of_not_mem hmem]
  exact congrArg n.moveTo hplace

namespace Editor

variable {g : Graph α} {places : List (NodeId × Point α)}

theorem distinctIds_restore (h : g.DistinctIds) (places : List (NodeId × Point α)) :
    (restore g places).DistinctIds := by
  rw [Graph.DistinctIds, ids_restore]
  exact h

theorem restore_eq_mapNodes (h : g.DistinctIds) (places : List (NodeId × Point α)) :
    restore g places = g.mapNodes (Node.placed places) := by
  induction places generalizing g with
  | nil => exact (Graph.mapNodes_eq_self fun _ _ => rfl).symm
  | cons place rest ih =>
    have hmoved : (g.moveNode place.1 place.2).DistinctIds := by
      rwa [Graph.DistinctIds, Graph.ids_moveNode]
    have hrest : restore g (place :: rest) = restore (g.moveNode place.1 place.2) rest := rfl
    rw [hrest, ih hmoved, Graph.moveNode_eq_mapNodes h, Graph.mapNodes_mapNodes]
    refine Graph.mapNodes_congr fun n _ => ?_
    simp only [Node.placed, placeOf]
    by_cases hid : n.id = place.1
    · simp only [if_pos hid]
      rfl
    · simp only [if_neg hid]

theorem place?_restore (h : g.DistinctIds) (places : List (NodeId × Point α)) (id : NodeId) :
    (restore g places).place? id = (g.place? id).map (placeOf id places) := by
  rw [restore_eq_mapNodes h, Graph.place?, Graph.node?_mapNodes (Node.id_placed places),
    Graph.place?]
  cases hn : g.node? id with
  | none => rfl
  | some n =>
    obtain rfl := Graph.id_of_node? hn
    rfl

theorem target?_restore (h : g.DistinctIds) (places : List (NodeId × Point α)) (node : NodeId)
    (index : Nat) : (restore g places).target? node index = g.target? node index := by
  rw [restore_eq_mapNodes h]
  exact Graph.target?_mapNodes (Node.id_placed places) (Node.body_placed places) node index

/-- Placing nodes takes back all earlier placing of the same nodes. -/
theorem restore_restore (h : g.DistinctIds) {earlier later : List (NodeId × Point α)}
    (hids : ∀ id ∈ earlier.map (·.1), id ∈ later.map (·.1)) :
    restore (restore g earlier) later = restore g later := by
  rw [restore_eq_mapNodes (distinctIds_restore h earlier), restore_eq_mapNodes h,
    restore_eq_mapNodes h, Graph.mapNodes_mapNodes]
  exact Graph.mapNodes_congr fun n _ => Node.placed_placed hids n

/-- Nodes that are put where they are do not change the graph. -/
theorem restore_eq_self (h : g.DistinctIds)
    (hplaces : ∀ place ∈ places, g.place? place.1 = some place.2) : restore g places = g := by
  rw [restore_eq_mapNodes h]
  refine Graph.mapNodes_eq_self fun n hn => ?_
  have hplace : placeOf n.id places n.position = n.position := by
    refine (placeOf_eq_or_mem n.id places n.position).elim id fun hmem => ?_
    have hposition := hplaces _ hmem
    rw [Graph.place?_of_mem h hn] at hposition
    exact (Option.some.inj hposition).symm
  rw [Node.placed, hplace]
  rfl

variable [Metric α]

theorem dragTo_eq_restore (g : Graph α) (anchor world : Point α)
    (starts : List (NodeId × Point α)) :
    dragTo g anchor world starts =
      restore g (starts.map fun start => (start.1, dragged start.2 anchor world)) := by
  rw [restore, List.foldl_map]
  rfl

/-- Where a node is put when it is dropped. -/
def dropPlace (s : Settings α) (anchor world start : Point α) : Point α :=
  s.snap (dragged start anchor world)

theorem drop_eq_restore (s : Settings α) (anchor world : Point α)
    (starts : List (NodeId × Point α)) (g : Graph α) :
    (drop s anchor world starts g).1 =
      restore g (starts.map fun start => (start.1, dropPlace s anchor world start.2)) := by
  induction starts generalizing g with
  | nil => rfl
  | cons start rest ih =>
    have hcons (g : Graph α) : restore g ((start :: rest).map fun start =>
        (start.1, dropPlace s anchor world start.2)) =
        restore (g.moveNode start.1 (dropPlace s anchor world start.2))
          (rest.map fun start => (start.1, dropPlace s anchor world start.2)) := rfl
    unfold drop
    split
    · exact ih _
    · rename_i hmissing
      rw [hcons, Graph.moveNode_of_not_contains (by simpa using hmissing)]
      exact ih g

/-- A dropped node that is put elsewhere is listed. -/
theorem mem_drop {s : Settings α} {anchor world start : Point α} {id : NodeId}
    {starts : List (NodeId × Point α)} (hstart : (id, start) ∈ starts) (hid : id ∈ g.ids)
    (hmoved : (dropPlace s anchor world start == start) = false) :
    id ∈ (drop s anchor world starts g).2 := by
  induction starts generalizing g with
  | nil => cases hstart
  | cons first rest ih =>
    unfold drop
    rcases List.mem_cons.mp hstart with rfl | hrest
    · rw [if_pos (Graph.contains_iff.mpr hid)]
      have hplace : ¬ (s.snap (dragged start anchor world) == start) = true := by
        simpa [dropPlace] using hmoved
      simp only [if_neg hplace, List.mem_cons_self]
    · split
      · have hlater := ih hrest (g := g.moveNode first.1 (s.snap (dragged first.2 anchor world)))
          (by rwa [Graph.ids_moveNode])
        simp only
        split
        · exact hlater
        · exact List.mem_cons_of_mem _ hlater
      · exact ih hrest hid

end Editor

end EventGraph
