import EventGraph.Proofs.Document.RoundTrip

/-!
# What reading yields

Whatever text a document is read from, it has no link to the empty id and no text block: all that
is in it can be written, but for numbers that are not finite.
-/

namespace EventGraph.Document

open Json (Tree)

theorem link?_ne_empty {t : Option Tree} {target : Option NodeId} (h : link? t = some target) :
    target ≠ some "" := by
  rintro rfl
  unfold link? at h
  split at h
  · cases h
  · cases h
  · obtain ⟨text, -, htext⟩ := Option.map_eq_some_iff.mp h
    split at htext
    · cases htext
    · rename_i hne
      exact hne (Option.some.inj htext)
  · cases h

/-- Every item of a list was read from some tree. -/
theorem exists_of_mem_list? {β : Type} {item? : Tree → Option β} {t : Option Tree} {l : List β}
    (h : list? item? t = some l) {b : β} (hb : b ∈ l) : ∃ t, item? t = some b := by
  unfold list? at h
  split at h
  · obtain rfl := Option.some.inj h
    cases hb
  · have hmem : some b ∈ l.map some := List.mem_map_of_mem hb
    rw [← mapM_eq_some_iff.mp h] at hmem
    obtain ⟨t, -, ht⟩ := List.mem_map.mp hmem
    exact ⟨t, ht⟩
  · cases h

theorem next_of_entry? {t : Tree} {e : ChoiceEntry} (h : entry? t = some e) :
    e.next ≠ some "" := by
  obtain ⟨fields, -, h⟩ := Option.bind_eq_some_iff.mp h
  split at h
  · obtain ⟨_, -, h⟩ := Option.bind_eq_some_iff.mp h
    obtain ⟨_, -, h⟩ := Option.bind_eq_some_iff.mp h
    obtain ⟨_, -, h⟩ := Option.bind_eq_some_iff.mp h
    obtain ⟨_, -, h⟩ := Option.bind_eq_some_iff.mp h
    obtain ⟨next, hnext, h⟩ := Option.bind_eq_some_iff.mp h
    obtain rfl := Option.some.inj h
    exact link?_ne_empty hnext
  · cases h

theorem next_of_case? {t : Tree} {c : SwitchCase} (h : case? t = some c) : c.next ≠ some "" := by
  obtain ⟨fields, -, h⟩ := Option.bind_eq_some_iff.mp h
  split at h
  · obtain ⟨_, -, h⟩ := Option.bind_eq_some_iff.mp h
    obtain ⟨next, hnext, h⟩ := Option.bind_eq_some_iff.mp h
    obtain rfl := Option.some.inj h
    exact link?_ne_empty hnext
  · cases h

theorem exits_of_body? {kind : NodeKind} {fields : TreeFields} {b : Body}
    (h : body? kind fields = some b) : some "" ∉ b.exits := by
  cases kind with
  | exec =>
    obtain ⟨_, -, h⟩ := Option.bind_eq_some_iff.mp h
    split at h
    · obtain ⟨_, -, h⟩ := Option.bind_eq_some_iff.mp h
      obtain ⟨_, -, h⟩ := Option.bind_eq_some_iff.mp h
      obtain ⟨next, hnext, h⟩ := Option.bind_eq_some_iff.mp h
      obtain rfl := Option.some.inj h
      exact fun hmem => link?_ne_empty hnext (List.mem_singleton.mp hmem).symm
    · cases h
  | choice =>
    obtain ⟨_, -, h⟩ := Option.bind_eq_some_iff.mp h
    split at h
    · obtain ⟨_, -, h⟩ := Option.bind_eq_some_iff.mp h
      obtain ⟨entries, hentries, h⟩ := Option.bind_eq_some_iff.mp h
      obtain rfl := Option.some.inj h
      intro hmem
      obtain ⟨e, he, hnext⟩ := List.mem_map.mp hmem
      obtain ⟨t, ht⟩ := exists_of_mem_list? hentries he
      exact next_of_entry? ht hnext
    · cases h
  | switch =>
    obtain ⟨_, -, h⟩ := Option.bind_eq_some_iff.mp h
    split at h
    · obtain ⟨cases, hcases, h⟩ := Option.bind_eq_some_iff.mp h
      obtain ⟨fallback, hfallback, h⟩ := Option.bind_eq_some_iff.mp h
      obtain rfl := Option.some.inj h
      intro hmem
      rcases List.mem_append.mp hmem with hcase | hlast
      · obtain ⟨c, hc, hnext⟩ := List.mem_map.mp hcase
        obtain ⟨t, ht⟩ := exists_of_mem_list? hcases hc
        exact next_of_case? ht hnext
      · exact link?_ne_empty hfallback (List.mem_singleton.mp hlast).symm
    · cases h
  | terminal =>
    obtain rfl := Option.some.inj h
    exact List.not_mem_nil
  | comment =>
    obtain ⟨_, -, h⟩ := Option.bind_eq_some_iff.mp h
    split at h
    · obtain ⟨_, -, h⟩ := Option.bind_eq_some_iff.mp h
      obtain rfl := Option.some.inj h
      exact List.not_mem_nil
    · cases h

/-- A node comes without a text block, and no exit of it leads to the empty id. -/
theorem of_node? {t : Tree} {n : Node Float32} (h : node? t = some n) :
    some "" ∉ n.body.exits ∧ storedNode n = n := by
  unfold node? at h
  split at h
  · simp only at h
    split at h
    · obtain ⟨_, -, h⟩ := Option.bind_eq_some_iff.mp h
      split at h
      · obtain ⟨_, -, h⟩ := Option.bind_eq_some_iff.mp h
        obtain ⟨body, hbody, h⟩ := Option.bind_eq_some_iff.mp h
        obtain ⟨_, -, h⟩ := Option.bind_eq_some_iff.mp h
        obtain ⟨_, -, h⟩ := Option.bind_eq_some_iff.mp h
        obtain ⟨_, -, h⟩ := Option.bind_eq_some_iff.mp h
        split at h
        all_goals
          obtain ⟨_, -, h⟩ := Option.bind_eq_some_iff.mp h
          obtain rfl := Option.some.inj h
          exact ⟨exits_of_body? hbody, rfl⟩
      · cases h
    · cases h
  · cases h

/-- Every node of a document was read from some tree. -/
theorem exists_of_mem_nodes {text : String} {d : Document Float32} (h : read? text = some d)
    {n : Node Float32} (hn : n ∈ d.nodes) : ∃ t, node? t = some n := by
  obtain ⟨_, -, h⟩ := Option.bind_eq_some_iff.mp h
  obtain ⟨_, -, h⟩ := Option.bind_eq_some_iff.mp h
  split at h
  · obtain ⟨_, -, h⟩ := Option.bind_eq_some_iff.mp h
    obtain ⟨nodes, hnodes, h⟩ := Option.bind_eq_some_iff.mp h
    obtain ⟨_, -, h⟩ := Option.bind_eq_some_iff.mp h
    obtain rfl := Option.some.inj h
    exact exists_of_mem_list? hnodes hn
  · cases h

theorem of_mem_nodes {text : String} {d : Document Float32} (h : read? text = some d)
    {n : Node Float32} (hn : n ∈ d.nodes) : some "" ∉ n.body.exits ∧ storedNode n = n := by
  obtain ⟨t, ht⟩ := exists_of_mem_nodes h hn
  exact of_node? ht

/-- A document without text blocks is just what a file holds of it. -/
theorem stored_eq_self {d : Document Float32} (h : ∀ n ∈ d.nodes, storedNode n = n) :
    d.stored = d := by
  rw [stored, List.map_congr_left h, List.map_id']

/-- A document with a number that is not finite has a text that is not read. -/
theorem ofTree?_eq_none {d : Document Float32} {x : Float32} (hx : x ∈ d.numbers)
    (hfinite : x.isFinite = false) (htargets : d.NoEmptyTarget) :
    ofTree? (layered d).tree = none := by
  obtain ⟨n, hn, hxn⟩ := List.mem_flatMap.mp hx
  have hnode : node? (nodeText n).tree = none := by
    have hnumber := number?_of_not_isFinite hfinite
    rw [node?_nodeText (htargets n hn)]
    simp only [List.mem_cons, List.not_mem_nil, or_false] at hxn
    obtain rfl | rfl | rfl := hxn <;> simp [hnumber]
  rw [ofTree?_layered, Option.map_eq_none_iff, Option.eq_none_iff_forall_ne_some]
  intro nodes hnodes
  have hmem : node? (nodeText n).tree ∈ d.nodes.map fun n => node? (nodeText n).tree :=
    List.mem_map_of_mem hn
  rw [list?_array_eq_some_iff.mp hnodes, hnode] at hmem
  obtain ⟨_, -, hsome⟩ := List.mem_map.mp hmem
  cases hsome

end EventGraph.Document
