import EventGraph.Document.Basic
import EventGraph.Proofs.Graph.InPlace
import Mathlib.Data.List.Induction

/-!
# Loading

A document is loaded by adding its nodes in order and laying out what came in. Of the nodes'
derived parts nothing is taken over, so loading normalises: what was loaded once is loaded again
as it is.
-/

namespace EventGraph

variable {α : Type}

/-! ### Repeated ids -/

/-- The first of some ids that is the same as an earlier one. -/
def FirstRepeated (ids : List NodeId) (id : NodeId) : Prop :=
  ∃ before after, ids = before ++ id :: after ∧ before.Nodup ∧ id ∈ before

/-- Only what repeats itself has a first id that does. -/
theorem exists_firstRepeated {ids : List NodeId} (h : ¬ ids.Nodup) :
    ∃ id, FirstRepeated ids id := by
  -- From the right, so that a repetition among the earlier ids is met first.
  induction ids using List.reverseRecOn with
  | nil => exact absurd List.nodup_nil h
  | append_singleton earlier last ih =>
    by_cases hearlier : earlier.Nodup
    · have hlast : last ∈ earlier := by
        by_contra hfresh
        rw [← List.concat_eq_append] at h
        exact h (List.Nodup.concat hfresh hearlier)
      exact ⟨last, earlier, [], rfl, hearlier, hlast⟩
    · obtain ⟨id, before, after, rfl, hbefore, hid⟩ := ih hearlier
      exact ⟨id, before, after ++ [last], by simp, hbefore, hid⟩

namespace Document

def ids (d : Document α) : List NodeId := d.nodes.map (·.id)

/-- The same document with other text blocks, which a file does not hold. -/
def withTextBlocks (block : Node α → α) (d : Document α) : Document α :=
  { d with nodes := d.nodes.map fun n => { n with textBlock := block n } }

theorem ids_withTextBlocks (block : Node α → α) (d : Document α) :
    (d.withTextBlocks block).ids = d.ids := by
  simp only [ids, withTextBlocks, List.map_map, Function.comp_def]

theorem withTextBlocks_textBlock (d : Document α) : d.withTextBlocks (·.textBlock) = d := by
  simp only [withTextBlocks, List.map_id']

/-- The nodes of a document as a graph, laid out. -/
def laidOut [Scalar α] (m : Measurer α) (d : Document α) : Graph α where
  name := d.name
  nodes := d.nodes.map (·.layOut m)
  declarations := d.declarations

@[simp] theorem ids_laidOut [Scalar α] (m : Measurer α) (d : Document α) :
    (d.laidOut m).ids = d.ids := by
  simp only [Graph.ids, laidOut, ids, List.map_map, Function.comp_def]
  rfl

end Document

namespace Graph

variable {g : Graph α} {n : Node α}

/-! ### Adding nodes in order -/

theorem ids_append (g : Graph α) (n : Node α) :
    Graph.ids { g with nodes := g.nodes ++ [n] } = g.ids ++ [n.id] := by
  simp only [ids, List.map_append, List.map_cons, List.map_nil]

theorem DistinctIds.append (h : g.DistinctIds) (hfresh : n.id ∉ g.ids) :
    DistinctIds { g with nodes := g.nodes ++ [n] } := by
  rw [DistinctIds, ids_append, ← List.concat_eq_append]
  exact List.Nodup.concat hfresh h

theorem addAll_append (g : Graph α) (earlier later : List (Node α)) :
    g.addAll (earlier ++ later) = (g.addAll earlier).bind (·.addAll later) := by
  induction earlier generalizing g with
  | nil => rfl
  | cons n rest ih =>
    rw [List.cons_append, addAll, addAll]
    cases g.add n with
    | error error => rfl
    | ok added => exact ih added

/-- Nodes with new and distinct ids are all added, in their order. -/
theorem addAll_of_nodup {ns : List (Node α)} (h : (g.ids ++ ns.map (·.id)).Nodup) :
    g.addAll ns = .ok { g with nodes := g.nodes ++ ns } := by
  induction ns generalizing g with
  | nil => rw [addAll, List.append_nil]
  | cons n rest ih =>
    have hfresh : n.id ∉ g.ids := fun hmem =>
      (List.nodup_append.mp h).2.2 n.id hmem n.id List.mem_cons_self rfl
    have hadd := add_eq_ok_iff.mpr ⟨hfresh, rfl⟩
    have hrest := ih (g := { g with nodes := g.nodes ++ [n] })
      (by rwa [ids_append, List.append_assoc])
    rw [List.append_assoc, List.singleton_append] at hrest
    rw [addAll, hadd]
    exact hrest

theorem addAll_of_firstRepeated {ns : List (Node α)} {id : NodeId} (hempty : g.nodes = [])
    (h : FirstRepeated (ns.map (·.id)) id) : g.addAll ns = .error (.duplicateNode id) := by
  obtain ⟨before, after, hns, hbefore, hid⟩ := h
  obtain ⟨earlier, later, rfl, rfl, hlater⟩ := List.map_eq_append_iff.mp hns
  obtain ⟨n, rest, rfl, rfl, -⟩ := List.map_eq_cons_iff.mp hlater
  have hids : g.ids = [] := by rw [ids, hempty, List.map_nil]
  have hearlier : g.addAll earlier = .ok { g with nodes := earlier } := by
    rw [addAll_of_nodup (by rwa [hids, List.nil_append]), hempty, List.nil_append]
  have hrefused : Graph.add { g with nodes := earlier } n = .error (.duplicateNode n.id) := by
    rw [add, if_pos (contains_iff.mpr hid)]
  rw [addAll_append, hearlier, Except.bind, addAll, hrefused]
  rfl

/-! ### Graphs of documents -/

variable [Scalar α] {m : Measurer α} {d : Document α} {error : GraphError}

theorem ofDocument_of_nodup (h : d.ids.Nodup) : ofDocument m d = .ok (d.laidOut m) := by
  have hadd : addAll { name := d.name, declarations := d.declarations } d.nodes =
      .ok { name := d.name, nodes := d.nodes, declarations := d.declarations } := addAll_of_nodup h
  rw [ofDocument, hadd]
  rfl

theorem ofDocument_of_firstRepeated {id : NodeId} (h : FirstRepeated d.ids id) :
    ofDocument m d = .error (.duplicateNode id) := by
  rw [ofDocument, addAll_of_firstRepeated rfl h]
  rfl

theorem ofDocument_eq_ok_iff : ofDocument m d = .ok g ↔ d.ids.Nodup ∧ g = d.laidOut m := by
  by_cases h : d.ids.Nodup
  · rw [ofDocument_of_nodup h]
    simp only [h, true_and, Except.ok.injEq, eq_comm]
  · obtain ⟨id, hid⟩ := exists_firstRepeated h
    rw [ofDocument_of_firstRepeated hid]
    simp only [h, false_and, reduceCtorEq]

theorem ofDocument_eq_error_iff :
    ofDocument m d = .error error ↔ ∃ id, FirstRepeated d.ids id ∧ error = .duplicateNode id := by
  constructor
  · intro herror
    have hrepeats : ¬ d.ids.Nodup := by
      intro h
      rw [ofDocument_of_nodup h] at herror
      cases herror
    obtain ⟨id, hid⟩ := exists_firstRepeated hrepeats
    rw [ofDocument_of_firstRepeated hid] at herror
    exact ⟨id, hid, (Except.error.inj herror).symm⟩
  · rintro ⟨id, hid, rfl⟩
    exact ofDocument_of_firstRepeated hid

theorem ids_ofDocument (h : ofDocument m d = .ok g) : g.ids = d.ids ∧ g.DistinctIds := by
  obtain ⟨hnodup, rfl⟩ := ofDocument_eq_ok_iff.mp h
  refine ⟨d.ids_laidOut m, ?_⟩
  rwa [DistinctIds, Document.ids_laidOut]

end Graph

/-! ### Loading again -/

variable [Scalar α]

/-- A node as it comes out of a graph into which it was loaded: but for its height it is as it
was, and the height is what its body comes to. -/
structure Node.Normalised (m : Measurer α) (n out : Node α) : Prop where
  id : out.id = n.id
  x : out.x = n.x
  y : out.y = n.y
  body : out.body = n.body
  height : out.height = (n.layOut m).height

theorem Node.normalised_layOut (m : Measurer α) (n : Node α) : n.Normalised m (n.layOut m) where
  id := rfl
  x := rfl
  y := rfl
  body := rfl
  height := rfl

/-- Layout looks at the body alone, not at what an earlier one has left. -/
theorem Node.layOut_of_body (m : Measurer α) (n : Node α) (height textBlock : α) :
    layOut m { n with height, textBlock } = n.layOut m := rfl

/-- What was loaded is laid out already, whatever is put for the text blocks. -/
theorem Document.laidOut_again (m : Measurer α) (block : Node α → α) (d : Document α) :
    ((d.laidOut m).toDocument.withTextBlocks block).laidOut m = d.laidOut m := by
  have hnodes (n : Node α) : { n.layOut m with textBlock := block (n.layOut m) }.layOut m =
    n.layOut m := (n.layOut m).layOut_of_body m (n.layOut m).height (block (n.layOut m))
  simp only [laidOut, withTextBlocks, Graph.toDocument, List.map_map, Function.comp_def, hnodes]

/-- **A document is loaded exactly if its ids are distinct; else the first id that is the same as
an earlier one is named. The graph gives the document back with its name, its variables and its
nodes in order, each as it was but for its height, which is computed. Loaded again with the same
measurer, with whatever text blocks, this document yields the same graph.** -/
theorem Graph.ofDocument_normalises (m : Measurer α) (d : Document α) :
    ((∃ g, ofDocument m d = .ok g) ↔ d.ids.Nodup) ∧
    (∀ error, ofDocument m d = .error error ↔
      ∃ id, FirstRepeated d.ids id ∧ error = .duplicateNode id) ∧
    ∀ g, ofDocument m d = .ok g →
      g.toDocument.name = d.name ∧ g.toDocument.declarations = d.declarations ∧
      List.Forall₂ (Node.Normalised m) d.nodes g.toDocument.nodes ∧
      ofDocument m g.toDocument = .ok g ∧
      ∀ block : Node α → α, ofDocument m (g.toDocument.withTextBlocks block) = .ok g := by
  refine ⟨⟨fun ⟨g, hg⟩ => (ofDocument_eq_ok_iff.mp hg).1, fun h => ⟨_, ofDocument_of_nodup h⟩⟩,
    fun error => ofDocument_eq_error_iff, fun g hg => ?_⟩
  obtain ⟨hnodup, rfl⟩ := ofDocument_eq_ok_iff.mp hg
  have hagain (block : Node α → α) :
      ofDocument m ((d.laidOut m).toDocument.withTextBlocks block) = .ok (d.laidOut m) := by
    have hids : ((d.laidOut m).toDocument.withTextBlocks block).ids.Nodup := by
      rw [Document.ids_withTextBlocks]
      exact (ids_ofDocument hg).2
    rw [ofDocument_of_nodup hids, d.laidOut_again m block]
  refine ⟨rfl, rfl, ?_, ?_, hagain⟩
  · exact List.forall₂_map_right_iff.mpr (List.forall₂_same.mpr fun n _ => n.normalised_layOut m)
  · have hsame := hagain (·.textBlock)
    rwa [Document.withTextBlocks_textBlock] at hsame

/-- A note and an end that were laid out with other texts. -/
def outdated : Document Float32 where
  name := "outdated"
  nodes := [
    { id := "end", x := 0.1, y := -0.0, height := 7.5, textBlock := 3.0, body := .terminal },
    { id := "note", x := 1.0e20, y := 0.0 / 0.0, height := 1.0 / 0.0, textBlock := 0.0
      body := .comment "One\n\nand three lines." }]

theorem Graph.ofDocument_normalises_outdated :
    ∃ g, ofDocument .standard outdated = .ok g ∧
      g.nodes.map (·.height) = [40.0, 88.0] ∧ g.nodes.map (·.textBlock) = [0.0, 56.0] ∧
      List.Forall₂ (Node.Normalised .standard) outdated.nodes g.toDocument.nodes ∧
      ofDocument .standard (g.toDocument.withTextBlocks fun _ => 0.0) = .ok g ∧
      ofDocument .standard { outdated with nodes := outdated.nodes ++ outdated.nodes.reverse } =
        .error (.duplicateNode "note") := by
  obtain ⟨hloads, -, hnormalises⟩ := ofDocument_normalises .standard outdated
  obtain ⟨g, hg⟩ := hloads.mpr (by decide +kernel)
  obtain ⟨-, -, hnodes, -, hagain⟩ := hnormalises g hg
  obtain ⟨-, hrefused, -⟩ := ofDocument_normalises .standard
    { outdated with nodes := outdated.nodes ++ outdated.nodes.reverse }
  obtain ⟨-, rfl⟩ := ofDocument_eq_ok_iff.mp hg
  refine ⟨_, hg, by decide +kernel, by decide +kernel, hnodes, hagain _, ?_⟩
  exact (hrefused _).mpr ⟨"note", ⟨["end", "note"], ["end"], rfl, by decide, by decide⟩, rfl⟩

end EventGraph
