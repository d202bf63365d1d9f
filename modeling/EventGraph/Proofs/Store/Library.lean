import EventGraph.Proofs.Store.Files
import EventGraph.Store.Memory
import Mathlib.Data.List.Basic

/-!
# The library of a store

A store lists every document that it can load. So a graph is looked up in its library by loading
it: what is found are the declarations of the document, and a graph that cannot be loaded, for
whatever cause, is not found.
-/

namespace EventGraph

/-- A table made of some of its keys, each with what is found for it. -/
theorem Table.get?_filterMap {β : Type} (f : String → Option β) (keys : List String)
    (key : String) : Table.get? (keys.filterMap fun k => (f k).map (k, ·)) key =
      if key ∈ keys then f key else none := by
  induction keys with
  | nil => rfl
  | cons k rest ih =>
    rw [List.filterMap_cons]
    by_cases hk : k = key
    · subst hk
      rw [if_pos List.mem_cons_self]
      cases hf : f k with
      | none =>
        rw [Option.map_none, ih, hf, ite_self]
      | some b =>
        rw [Option.map_some, Table.get?_cons, if_pos rfl]
    · have hmem : key ∈ k :: rest ↔ key ∈ rest := by simp [Ne.symm hk]
      simp only [hmem]
      cases f k with
      | none => exact ih
      | some b =>
        rw [Option.map_some, Table.get?_cons, if_neg hk]
        exact ih

namespace Store

/-- A store that lists every document it can load. -/
class ListsLoaded (σ : Type) [Store σ] : Prop where
  listed {s : σ} {name : String} {doc : Document Float32} :
    load s name = .ok doc → ∃ listed, names s = .ok listed ∧ name ∈ listed

instance : ListsLoaded Memory where
  listed {m name doc} h := by
    have hload : m.load name = .ok doc := h
    unfold Memory.load at hload
    split at hload
    · rename_i found hfound
      have hmem : name ∈ m.documents.keys := List.mem_map.mpr ⟨_, Table.mem_of_get? hfound, rfl⟩
      exact ⟨m.documents.keys.mergeSort, rfl, List.mem_mergeSort.mpr hmem⟩
    · cases hload

namespace Directory

variable {d : Directory} {name text : String}

theorem exists_entry_of_readText (h : d.readText name = .ok text) :
    ∃ entries entry, d.root = .ok (.folder entries) ∧
      Table.get? entries (fileName name) = some entry := by
  unfold readText at h
  split at h
  · cases h
  · cases h
  · rename_i entries hroot
    unfold Disk.Folder.read at h
    split at h
    · split at h
      · exact ⟨entries, _, hroot, ‹_›⟩
      · cases h
    · cases h

end Directory

instance : ListsLoaded Directory where
  listed {d name doc} h := by
    obtain ⟨hname, text, -, htext, -⟩ := Directory.exists_read?_of_load h
    obtain ⟨entries, entry, hroot, hentry⟩ := Directory.exists_entry_of_readText htext
    have hnames : names d =
        .ok ((Table.keys entries).filterMap Directory.documentName?).mergeSort := by
      show d.names = _
      simp only [Directory.names, hroot]
    refine ⟨_, hnames, List.mem_mergeSort.mpr (List.mem_filterMap.mpr ?_)⟩
    exact ⟨Directory.fileName name, List.mem_map.mpr ⟨_, Table.mem_of_get? hentry, rfl⟩,
      Directory.documentName?_fileName hname⟩

/-- **To look a graph up in the library of a store is to load it.** -/
theorem get?_library {σ : Type} [Store σ] [ListsLoaded σ] (s : σ) (graph : String) :
    (library s).get? graph = (load s graph).toOption.map Document.declarations := by
  have hlisted {names : List String} (hnames : Store.names s = .ok names) : library s =
      names.filterMap fun name =>
        ((load s name).toOption.map Document.declarations).map (name, ·) := by
    rw [library, hnames]
    refine List.filterMap_congr fun name _ => ?_
    cases load s name <;> rfl
  cases hload : load s graph with
  | ok doc =>
    obtain ⟨names, hnames, hmem⟩ := ListsLoaded.listed hload
    rw [hlisted hnames, Table.get?_filterMap, if_pos hmem, hload]
  | error cause =>
    cases hnames : Store.names s with
    | error cause =>
      rw [library, hnames]
      rfl
    | ok names =>
      rw [hlisted hnames, Table.get?_filterMap, hload]
      exact ite_self _

end Store

end EventGraph
