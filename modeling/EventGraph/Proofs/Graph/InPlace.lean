import EventGraph.Proofs.Graph.Edit

/-!
# Edits in place

A graph is edited in place: whether an edit returns or fails, some graph is left. An edit that
fails has changed nothing, since all that it can fail with is found before the first change.
-/

namespace EventGraph.Graph

variable {α β : Type}

/-- What is done to a graph in place. A graph is left where it fails too. -/
abbrev InPlace (α : Type) : Type → Type := EStateM GraphError (Graph α)

namespace InPlace

def add (n : Node α) : InPlace α NodeId := do
  if (← get).contains n.id then throw (.duplicateNode n.id)
  modify fun g => { g with nodes := g.nodes ++ [n] }
  return n.id

def remove (id : NodeId) : InPlace α (Option (Node α)) := do
  let some removed := (← get).node? id | return none
  modify (·.dropNode id)
  modify (·.mapNodes fun n => (n.clearLinksTo id).1)
  return some removed

def setExit (node : NodeId) (index : Nat) (target : Option NodeId) :
    InPlace α (Option NodeId) := do
  let some n := (← get).node? node | throw (.nodeNotFound node)
  let some previous := n.body.exits[index]? | throw (.exitOutOfRange n.id index)
  modify (·.replace { n with body := n.body.setExit index target })
  return previous

def setLink (source : NodeId) (index : Nat) (target : NodeId) : InPlace α (Option NodeId) := do
  unless (← get).contains target do throw (.nodeNotFound target)
  setExit source index (some target)

def clearLink (node : NodeId) (index : Nat) : InPlace α (Option NodeId) := setExit node index none

end InPlace

/-- The result of an edit that leaves the graph as it was where it fails. -/
def leaving (g : Graph α) :
    Except GraphError (Graph α × β) → EStateM.Result GraphError (Graph α) β
  | .ok (g', b) => .ok b g'
  | .error error => .error error g

/-! In place, an edit comes to what it comes to as a function of the graph. -/

theorem run_add (g : Graph α) (n : Node α) :
    (InPlace.add n).run g = g.leaving ((g.add n).map fun g' => (g', n.id)) := by
  simp only [InPlace.add, Graph.add, EStateM.run_bind, EStateM.run_get]
  cases g.contains n.id <;> rfl

theorem run_remove (g : Graph α) (id : NodeId) :
    (InPlace.remove id).run g = match g.remove id with
      | some (g', removed) => .ok (some removed) g'
      | none => .ok none g := by
  simp only [InPlace.remove, Graph.remove, EStateM.run_bind, EStateM.run_get]
  cases g.node? id <;> rfl

theorem run_setExit (g : Graph α) (node : NodeId) (index : Nat) (target : Option NodeId) :
    (InPlace.setExit node index target).run g = g.leaving (g.setExit node index target) := by
  simp only [InPlace.setExit, Graph.setExit, Node.setExit, EStateM.run_bind, EStateM.run_get]
  cases g.node? node with
  | none => rfl
  | some n => cases hexit : n.body.exits[index]? <;> simp only [hexit] <;> rfl

theorem run_setLink (g : Graph α) (source : NodeId) (index : Nat) (target : NodeId) :
    (InPlace.setLink source index target).run g = g.leaving (g.setLink source index target) := by
  simp only [InPlace.setLink, Graph.setLink, EStateM.run_bind, EStateM.run_get]
  cases g.contains target with
  | false => rfl
  | true => exact run_setExit g source index (some target)

theorem run_clearLink (g : Graph α) (node : NodeId) (index : Nat) :
    (InPlace.clearLink node index).run g = g.leaving (g.clearLink node index) :=
  run_setExit g node index none

inductive Edit (α : Type) where
  | add (n : Node α)
  | remove (id : NodeId)
  | setLink (source : NodeId) (index : Nat) (target : NodeId)
  | clearLink (node : NodeId) (index : Nat)

namespace Edit

/-- The exits of a node that is added lead back to it or to nodes that are there. -/
def Admissible (g : Graph α) : Edit α → Prop
  | add n => ∀ id, some id ∈ n.body.exits → id = n.id ∨ id ∈ g.ids
  | remove _ | setLink _ _ _ | clearLink _ _ => True

def perform : Edit α → InPlace α Unit
  | add n => discard (InPlace.add n)
  | remove id => discard (InPlace.remove id)
  | setLink source index target => discard (InPlace.setLink source index target)
  | clearLink node index => discard (InPlace.clearLink node index)

end Edit

/-- What an edit of an exit can fail with. -/
inductive ExitRefused (g : Graph α) (node : NodeId) (index : Nat) : GraphError → Prop
  | missing : node ∉ g.ids → ExitRefused g node index (.nodeNotFound node)
  | outOfRange {n : Node α} : g.node? node = some n → n.body.exitCount ≤ index →
      ExitRefused g node index (.exitOutOfRange node index)

/-- What an edit can fail with. A link is refused for its target first. -/
inductive Refused (g : Graph α) : Edit α → GraphError → Prop
  | duplicate {n : Node α} : n.id ∈ g.ids → Refused g (.add n) (.duplicateNode n.id)
  | noTarget {source target : NodeId} {index : Nat} : target ∉ g.ids →
      Refused g (.setLink source index target) (.nodeNotFound target)
  | link {source target : NodeId} {index : Nat} {error : GraphError} : target ∈ g.ids →
      ExitRefused g source index error → Refused g (.setLink source index target) error
  | unlink {node : NodeId} {index : Nat} {error : GraphError} :
      ExitRefused g node index error → Refused g (.clearLink node index) error

variable {g g' : Graph α} {edit : Edit α} {n : Node α} {id source target node : NodeId}
  {index : Nat} {error : GraphError}

theorem leaving_eq_ok_iff {r : Except GraphError (Graph α × β)} {b : β} :
    g.leaving r = .ok b g' ↔ r = .ok (g', b) := by
  cases r <;> simp [leaving, Prod.ext_iff, and_comm]

theorem leaving_eq_error_iff {r : Except GraphError (Graph α × β)} :
    g.leaving r = .error error g' ↔ g' = g ∧ r = .error error := by
  cases r <;> simp [leaving, and_comm, eq_comm]

theorem discard_eq_bind (x : InPlace α β) : discard x = x >>= fun _ => pure () := rfl

theorem run_discard_eq_ok_iff {x : InPlace α β} :
    (discard x).run g = .ok () g' ↔ ∃ b, x.run g = .ok b g' := by
  rw [discard_eq_bind, EStateM.run_bind]
  cases x.run g <;> simp

theorem run_discard_eq_error_iff {x : InPlace α β} :
    (discard x).run g = .error error g' ↔ x.run g = .error error g' := by
  rw [discard_eq_bind, EStateM.run_bind]
  cases x.run g <;> simp

/-! ### Edits that fail -/

theorem add_map_eq_error_iff {f : Graph α → Graph α × β} :
    (g.add n).map f = .error error ↔ Refused g (.add n) error := by
  unfold add
  constructor
  · intro h
    split at h
    · rename_i hcontains
      cases h
      exact .duplicate (contains_iff.mp hcontains)
    · cases h
  · rintro ⟨hid⟩
    rw [if_pos (contains_iff.mpr hid)]
    rfl

theorem setExit_eq_error_iff {target : Option NodeId} :
    g.setExit node index target = .error error ↔ ExitRefused g node index error := by
  unfold Graph.setExit Node.setExit
  constructor
  · intro h
    split at h
    · rename_i hnone
      cases h
      exact .missing (node?_eq_none_iff.mp hnone)
    · rename_i n hn
      obtain rfl := id_of_node? hn
      split at h
      · cases h
      · rename_i hexit
        cases h
        exact .outOfRange hn (by simpa using hexit)
  · rintro (hmissing | ⟨hn, hexit⟩)
    · rw [node?_eq_none_iff.mpr hmissing]
    · rw [← Body.length_exits] at hexit
      simp only [hn, List.getElem?_eq_none hexit, id_of_node? hn]
      rfl

theorem setLink_eq_error_iff :
    g.setLink source index target = .error error ↔
      Refused g (.setLink source index target) error := by
  unfold setLink
  constructor
  · intro h
    split at h
    · rename_i hcontains
      exact .link (contains_iff.mp hcontains) (setExit_eq_error_iff.mp h)
    · rename_i hcontains
      cases h
      exact .noTarget (mt contains_iff.mpr hcontains)
  · intro h
    cases h with
    | noTarget htarget => rw [if_neg (mt contains_iff.mp htarget)]
    | link htarget hrefused =>
      rw [if_pos (contains_iff.mpr htarget), setExit_eq_error_iff]
      exact hrefused

theorem clearLink_eq_error_iff :
    g.clearLink node index = .error error ↔ Refused g (.clearLink node index) error := by
  rw [clearLink, setExit_eq_error_iff]
  refine ⟨.unlink, fun h => ?_⟩
  cases h with
  | unlink hrefused => exact hrefused

/-- An edit that fails leaves the graph as it was. -/
theorem run_perform_eq_error_iff :
    edit.perform.run g = .error error g' ↔ g' = g ∧ Refused g edit error := by
  cases edit with
  | add n =>
    rw [Edit.perform, run_discard_eq_error_iff, run_add, leaving_eq_error_iff,
      add_map_eq_error_iff]
  | remove id =>
    rw [Edit.perform, run_discard_eq_error_iff, run_remove]
    constructor
    · intro h
      split at h <;> cases h
    · rintro ⟨-, hrefused⟩
      cases hrefused
  | setLink source index target =>
    rw [Edit.perform, run_discard_eq_error_iff, run_setLink, leaving_eq_error_iff,
      setLink_eq_error_iff]
  | clearLink node index =>
    rw [Edit.perform, run_discard_eq_error_iff, run_clearLink, leaving_eq_error_iff,
      clearLink_eq_error_iff]

/-! ### Edits that are done -/

theorem add_eq_ok_iff :
    g.add n = .ok g' ↔ n.id ∉ g.ids ∧ g' = { g with nodes := g.nodes ++ [n] } := by
  rw [add, ← contains_iff]
  cases g.contains n.id <;> simp [eq_comm]

theorem run_add_eq_ok_iff :
    (Edit.add n).perform.run g = .ok () g' ↔
      n.id ∉ g.ids ∧ g' = { g with nodes := g.nodes ++ [n] } := by
  rw [Edit.perform, run_discard_eq_ok_iff, run_add, ← add_eq_ok_iff]
  simp only [leaving_eq_ok_iff]
  cases g.add n <;> simp [Except.map]

theorem run_remove_eq_ok_iff :
    (Edit.remove id).perform.run g = .ok () g' ↔
      (∃ removed, g.remove id = some (g', removed)) ∨ id ∉ g.ids ∧ g' = g := by
  rw [Edit.perform, run_discard_eq_ok_iff, run_remove, ← node?_eq_none_iff]
  unfold Graph.remove
  cases g.node? id <;> simp [eq_comm]

theorem run_setLink_eq_ok_iff :
    (Edit.setLink source index target).perform.run g = .ok () g' ↔
      target ∈ g.ids ∧ ∃ previous, g.setExit source index (some target) = .ok (g', previous) := by
  rw [Edit.perform, run_discard_eq_ok_iff, run_setLink]
  simp only [leaving_eq_ok_iff]
  rw [setLink, ← contains_iff]
  cases g.contains target <;> simp

theorem run_clearLink_eq_ok_iff :
    (Edit.clearLink node index).perform.run g = .ok () g' ↔
      ∃ previous, g.setExit node index none = .ok (g', previous) := by
  rw [Edit.perform, run_discard_eq_ok_iff, run_clearLink]
  simp only [leaving_eq_ok_iff, clearLink]

end EventGraph.Graph
