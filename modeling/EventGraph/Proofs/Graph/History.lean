import EventGraph.Graph.Basic
import Mathlib.Data.List.Dedup
import Mathlib.Data.List.Induction
import Mathlib.Data.List.Nodup

/-!
# Histories

Nodes come into a graph and are taken out of it. What is left stands in the order in which it
came in; a node that was taken out and comes in again counts as new.
-/

namespace EventGraph.Graph

/-- What happens to the nodes of a graph. -/
inductive Change where
  | added (id : NodeId)
  | removed (id : NodeId)
  deriving DecidableEq

def Change.node : Change → NodeId
  | added id | removed id => id

/-- The ids of nodes that came in, in the order in which they did. -/
def inserted (history : List Change) : List NodeId :=
  history.filterMap fun
    | .added id => some id
    | .removed _ => none

/-- What happened to a node last. -/
def lastChange? (id : NodeId) (history : List Change) : Option Change :=
  history.findRev? (·.node == id)

/-- A history leads to some ids: those that came in and are not taken out again, in the order in
which they came in last. -/
structure LeadsTo (history : List Change) (ids : List NodeId) : Prop where
  -- Of an id that came in more than once, `List.dedup` keeps the last.
  ordered : ids.Sublist (inserted history).dedup
  present : ∀ id, id ∈ ids ↔ lastChange? id history = some (.added id)

variable {history : List Change} {ids : List NodeId} {id : NodeId}

theorem inserted_concat_added (history : List Change) (id : NodeId) :
    inserted (history ++ [.added id]) = inserted history ++ [id] := by
  simp [inserted]

theorem inserted_concat_removed (history : List Change) (id : NodeId) :
    inserted (history ++ [.removed id]) = inserted history := by
  simp [inserted]

theorem lastChange?_concat (id : NodeId) (history : List Change) (change : Change) :
    lastChange? id (history ++ [change]) =
      if change.node = id then some change else lastChange? id history := by
  simp only [lastChange?, List.findRev?_eq_find?_reverse, List.reverse_concat, List.find?_cons]
  cases h : change.node == id <;> simp_all

/-- What comes in again counts as coming in last. -/
theorem dedup_concat (l : List NodeId) (id : NodeId) :
    (l ++ [id]).dedup = l.dedup.filter (· ≠ id) ++ [id] := by
  induction l with
  | nil => simp
  | cons first rest ih =>
    by_cases hrest : first ∈ rest
    · rw [List.cons_append, List.dedup_cons_of_mem (List.mem_append_left _ hrest), ih,
        List.dedup_cons_of_mem hrest]
    · rw [List.dedup_cons_of_notMem hrest]
      by_cases hid : first = id
      · subst hid
        rw [List.cons_append, List.dedup_cons_of_mem (by simp), ih]
        simp
      · rw [List.cons_append, List.dedup_cons_of_notMem (by simp [hrest, hid]), ih]
        simp [hid]

/-- Of distinct items, those that are kept in their order are known from which they are. -/
theorem eq_filter_of_sublist {l all : List NodeId} (h : l.Sublist all) (hall : all.Nodup) :
    l = all.filter (· ∈ l) := by
  induction h with
  | slnil => rfl
  | @cons l all first h ih =>
    obtain ⟨hfirst, hrest⟩ := List.nodup_cons.mp hall
    have hdropped : first ∉ l := fun hmem => hfirst (h.subset hmem)
    rw [List.filter_cons_of_neg (by simpa using hdropped), ← ih hrest]
  | @cons_cons l all first h ih =>
    obtain ⟨hfirst, hrest⟩ := List.nodup_cons.mp hall
    rw [List.filter_cons_of_pos (by simp)]
    have hsame : all.filter (· ∈ first :: l) = all.filter (· ∈ l) := by
      refine List.filter_congr fun other hother => ?_
      have hne : other ≠ first := by
        rintro rfl
        exact hfirst hother
      simp [hne]
    rw [hsame, ← ih hrest]

namespace LeadsTo

/-- A history says which ids there are, and in which order. -/
theorem unique {ids' : List NodeId} (h : LeadsTo history ids) (h' : LeadsTo history ids') :
    ids = ids' := by
  have hsame (id : NodeId) : id ∈ ids ↔ id ∈ ids' := (h.present id).trans (h'.present id).symm
  rw [eq_filter_of_sublist h.ordered (List.nodup_dedup _),
    eq_filter_of_sublist h'.ordered (List.nodup_dedup _)]
  exact List.filter_congr fun id _ => decide_eq_decide.mpr (hsame id)

theorem nil : LeadsTo [] [] := ⟨.slnil, fun id => by simp [lastChange?]⟩

theorem add (h : LeadsTo history ids) (hfresh : id ∉ ids) :
    LeadsTo (history ++ [.added id]) (ids ++ [id]) where
  ordered := by
    rw [inserted_concat_added, dedup_concat]
    have hkept : ids.filter (· ≠ id) = ids :=
      List.filter_eq_self.mpr fun other hother => by
        rw [decide_eq_true_eq]
        rintro rfl
        exact hfresh hother
    exact (hkept ▸ h.ordered.filter _).append_right [id]
  present other := by
    rw [lastChange?_concat, List.mem_append, List.mem_singleton]
    by_cases hother : id = other
    · subst hother
      simp [Change.node]
    · simp [Change.node, hother, Ne.symm hother, h.present]

theorem remove (h : LeadsTo history ids) (hnodup : ids.Nodup) (id : NodeId) :
    LeadsTo (history ++ [.removed id]) (ids.erase id) where
  ordered := by
    rw [inserted_concat_removed]
    exact List.erase_sublist.trans h.ordered
  present other := by
    rw [lastChange?_concat, hnodup.mem_erase_iff]
    by_cases hother : id = other
    · subst hother
      simp [Change.node]
    · simp [Change.node, hother, Ne.symm hother, h.present]

theorem ofNodup (hnodup : ids.Nodup) : LeadsTo (ids.map .added) ids := by
  induction ids using List.reverseRecOn with
  | nil => exact nil
  | append_singleton rest id ih =>
    rw [List.nodup_append_comm, List.singleton_append, List.nodup_cons] at hnodup
    rw [List.map_append]
    exact (ih hnodup.2).add hnodup.1

end LeadsTo

end EventGraph.Graph
