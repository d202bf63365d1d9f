import EventGraph.Proofs.Document.Admitted
import EventGraph.Proofs.Graph.Loading

/-!
# Links of saved graphs

A graph is loaded, edited, written as text and loaded from that text. Its links are then what
they were, but for those to a node whose id is empty: such links can be made, and a text has them
as no links.
-/

namespace EventGraph

/-! ### Links as they are read -/

/-- What is read where a link was written. -/
def readLink (target : Option NodeId) : Option NodeId := if target = some "" then none else target

theorem readLink_ne_empty (target : Option NodeId) : readLink target ≠ some "" := by
  unfold readLink
  split
  · exact Option.some_ne_none _ |>.symm
  · assumption

theorem Body.kind_mapExits (f : Option NodeId → Option NodeId) (b : Body) :
    (b.mapExits f).kind = b.kind := by
  cases b <;> rfl

namespace Document

/-- The document with its links as they are read. -/
def withReadLinks {α : Type} (d : Document α) : Document α :=
  { d with nodes := d.nodes.map fun n => { n with body := n.body.mapExits readLink } }

theorem linkText_readLink (target : Option NodeId) :
    linkText (readLink target) = linkText target := by
  unfold readLink
  split
  · rename_i hempty
    rw [hempty]
    rfl
  · rfl

theorem entryText_readLink (e : ChoiceEntry) :
    entryText { e with next := readLink e.next } = entryText e := by
  rw [entryText, linkText_readLink]
  rfl

theorem caseText_readLink (c : SwitchCase) :
    caseText { c with next := readLink c.next } = caseText c := by
  rw [caseText, linkText_readLink]
  rfl

theorem bodyFields_readLink (b : Body) : bodyFields (b.mapExits readLink) = bodyFields b := by
  cases b with
  | exec e => simp only [Body.mapExits, bodyFields, linkText_readLink]
  | choice c =>
    simp only [Body.mapExits, bodyFields, List.map_map, Function.comp_def, entryText_readLink]
  | switch s =>
    simp only [Body.mapExits, bodyFields, List.map_map, Function.comp_def, caseText_readLink,
      linkText_readLink]
  | terminal | comment text => rfl

theorem nodeText_readLink (n : Node Float32) :
    nodeText { n with body := n.body.mapExits readLink } = nodeText n := by
  simp only [nodeText, Node.kind, Body.kind_mapExits, bodyFields_readLink]

variable {d : Document Float32} {text : String}

/-- A text does not tell a link to the empty id from no link. -/
theorem layered_withReadLinks (d : Document Float32) : layered d.withReadLinks = layered d := by
  simp only [layered, withReadLinks, List.map_map, Function.comp_def, nodeText_readLink]

theorem noEmptyTarget_withReadLinks (d : Document Float32) : d.withReadLinks.NoEmptyTarget := by
  intro n hn hempty
  obtain ⟨m, -, rfl⟩ := List.mem_map.mp hn
  rw [Body.exits_mapExits] at hempty
  obtain ⟨target, -, htarget⟩ := List.mem_map.mp hempty
  exact readLink_ne_empty target htarget

theorem numbers_withReadLinks (d : Document Float32) : d.withReadLinks.numbers = d.numbers := by
  simp only [numbers, withReadLinks, List.flatMap_map]

/-- The text of a document is read as that of the document with its links as they are read. -/
theorem read?_of_text (htext : text = d.compact ∨ text = d.indented) :
    read? text = ofTree? (layered d.withReadLinks).tree := by
  rw [layered_withReadLinks]
  obtain rfl | rfl := htext
  · exact read?_compact d
  · exact read?_indented d

theorem read?_of_finite (htext : text = d.compact ∨ text = d.indented)
    (hfinite : ∀ x ∈ d.numbers, x.isFinite = true)
    (hback : ∀ x ∈ d.numbers, x.isFinite = true → ReadsBack x) :
    read? text = some d.withReadLinks.stored := by
  rw [read?_of_text htext, ofTree?_eq_stored_iff d.noEmptyTarget_withReadLinks,
    numbers_withReadLinks]
  exact fun x hx => hback x hx (hfinite x hx)

theorem read?_of_not_finite (htext : text = d.compact ∨ text = d.indented) {x : Float32}
    (hx : x ∈ d.numbers) (hfinite : x.isFinite = false) : read? text = none := by
  rw [read?_of_text htext]
  rw [← numbers_withReadLinks] at hx
  exact ofTree?_eq_none hx hfinite d.noEmptyTarget_withReadLinks

end Document

namespace Graph

variable {α : Type} {g g' : Graph α} {edit : Edit α}

/-! ### Edited graphs -/

/-- The graph that an edit leaves, done or not. -/
def Edit.leave (edit : Edit α) (g : Graph α) : Graph α :=
  match edit.perform.run g with
  | .ok _ g' => g'
  | .error _ g' => g'

/-- The graph that some edits leave, one after the other. -/
def edited (g : Graph α) (edits : List (Edit α)) : Graph α :=
  edits.foldl (fun g edit => edit.leave g) g

theorem DistinctIds.perform (h : g.DistinctIds) (hrun : edit.perform.run g = .ok () g') :
    g'.DistinctIds := by
  cases edit with
  | add n =>
    obtain ⟨hfresh, rfl⟩ := run_add_eq_ok_iff.mp hrun
    exact h.append hfresh
  | remove id =>
    obtain ⟨removed, hremove⟩ | ⟨-, rfl⟩ := run_remove_eq_ok_iff.mp hrun
    · exact h.remove hremove
    · exact h
  | setLink source index target =>
    obtain ⟨-, previous, hset⟩ := run_setLink_eq_ok_iff.mp hrun
    exact h.setExit hset
  | clearLink node index =>
    obtain ⟨previous, hset⟩ := run_clearLink_eq_ok_iff.mp hrun
    exact h.setExit hset

theorem DistinctIds.leave (h : g.DistinctIds) (edit : Edit α) : (edit.leave g).DistinctIds := by
  unfold Edit.leave
  split
  · rename_i hdone
    exact h.perform hdone
  · rename_i hfailed
    obtain ⟨rfl, -⟩ := run_perform_eq_error_iff.mp hfailed
    exact h

theorem DistinctIds.edited (h : g.DistinctIds) (edits : List (Edit α)) :
    (g.edited edits).DistinctIds := by
  induction edits generalizing g with
  | nil => exact h
  | cons edit rest ih => exact ih (h.leave edit)

/-- A link that was just made is there. -/
theorem target?_of_setLink {source target : NodeId} {index : Nat}
    (h : (Edit.setLink source index target).perform.run g = .ok () g') :
    g'.target? source index = some (some target) := by
  obtain ⟨-, previous, hset⟩ := run_setLink_eq_ok_iff.mp h
  rw [target?_setExit hset, if_pos ⟨rfl, rfl⟩]

/-! ### Graphs that are loaded again -/

theorem target?_mapNodes_map {f : Node α → Node α} {k : Option NodeId → Option NodeId}
    (hid : ∀ n, (f n).id = n.id) (hexits : ∀ n, (f n).body.exits = n.body.exits.map k)
    (node : NodeId) (index : Nat) :
    (g.mapNodes f).target? node index = (g.target? node index).map k := by
  simp only [target?, node?_mapNodes hid, Option.bind_map, Option.map_bind, Function.comp_def,
    hexits, List.getElem?_map]

/-- The graph that is loaded from the text of a graph. -/
def reloaded (g : Graph Float32) : Graph Float32 :=
  g.toDocument.withReadLinks.stored.laidOut .standard

theorem reloaded_eq_mapNodes (g : Graph Float32) :
    g.reloaded = g.mapNodes fun n =>
      (Document.storedNode { n with body := n.body.mapExits readLink }).layOut .standard := by
  simp only [reloaded, Document.laidOut, Document.stored, Document.withReadLinks, toDocument,
    mapNodes, List.map_map, Function.comp_def]

theorem ids_reloaded (g : Graph Float32) : g.reloaded.ids = g.ids := by
  rw [reloaded_eq_mapNodes]
  exact ids_mapNodes fun _ => rfl

theorem target?_reloaded (g : Graph Float32) (node : NodeId) (index : Nat) :
    g.reloaded.target? node index = (g.target? node index).map readLink := by
  rw [reloaded_eq_mapNodes, target?_mapNodes_map (k := readLink)]
  · exact fun _ => rfl
  · exact fun n => Body.exits_mapExits readLink n.body

theorem ofDocument_stored {g : Graph Float32} (h : g.DistinctIds) :
    ofDocument .standard g.toDocument.withReadLinks.stored = .ok g.reloaded := by
  refine ofDocument_of_nodup ?_
  rw [← Document.ids_laidOut .standard]
  exact (ids_reloaded g).symm ▸ h

/-- **A graph that was loaded and then edited in any way is written as text and loaded again from
it. If its numbers are finite this succeeds, and every exit has the target it had, but for a link
to the empty id, which is gone; so a link that was just made is there again if its target has
another id. With a number that is not finite the text is not read.** -/
theorem reload_of_edited {d : Document Float32} {g g' : Graph Float32}
    {edits : List (Edit Float32)} {text : String} (hload : ofDocument .standard d = .ok g)
    (hedited : g.edited edits = g')
    (htext : text = g'.toDocument.compact ∨ text = g'.toDocument.indented)
    (hback : ∀ x ∈ g'.toDocument.numbers, x.isFinite = true → Document.ReadsBack x) :
    ((∀ x ∈ g'.toDocument.numbers, x.isFinite = true) →
      ∃ again r, Document.read? text = some again ∧ ofDocument .standard again = .ok r ∧
        r.ids = g'.ids ∧
        (∀ node index, r.target? node index = (g'.target? node index).map readLink) ∧
        ∀ before source index target,
          (Edit.setLink source index target).perform.run before = .ok () g' → target ≠ "" →
          r.target? source index = some (some target)) ∧
    ((∃ x ∈ g'.toDocument.numbers, x.isFinite = false) → Document.read? text = none) := by
  have hdistinct : g'.DistinctIds := hedited ▸ (ids_ofDocument hload).2.edited edits
  constructor
  · intro hfinite
    refine ⟨_, _, Document.read?_of_finite htext hfinite hback, ofDocument_stored hdistinct,
      ids_reloaded g', target?_reloaded g', ?_⟩
    intro before source index target hlink hne
    have hkept : readLink (some target) = some target := if_neg (by simpa using hne)
    rw [target?_reloaded, target?_of_setLink hlink, Option.map_some, hkept]
  · rintro ⟨x, hx, hinfinite⟩
    exact Document.read?_of_not_finite htext hx hinfinite

/-- A cellar with a door to a room without a name. -/
def cellar : Document Float32 where
  name := "cellar"
  nodes := [
    .create "door" (.switch { cases := [{ condition := "true", next := some "stairs" }] }),
    .create "stairs" .terminal, .create "" (.comment "Nothing here.")]

/-- The stairs are taken away for a ladder to the door, and the door is linked to the room without
a name. -/
def rebuilding : List (Edit Float32) :=
  [.add { Node.create "ladder" (.exec {}) with x := 0.1, height := 1.5 }, .remove "stairs",
    .setLink "door" 0 "stairs", .setLink "door" 1 "", .setLink "ladder" 0 "door"]

theorem reload_of_edited_cellar :
    ∃ g again r, ofDocument .standard cellar = .ok g ∧
      (g.edited rebuilding).target? "door" 1 = some (some "") ∧
      Document.read? (g.edited rebuilding).toDocument.indented = some again ∧
      ofDocument .standard again = .ok r ∧ r.ids = ["door", "", "ladder"] ∧
      r.target? "door" 0 = some none ∧ r.target? "door" 1 = some none ∧
      r.target? "ladder" 0 = some (some "door") := by
  let rebuilt := (cellar.laidOut .standard).edited rebuilding
  have hload : ofDocument .standard cellar = .ok (cellar.laidOut .standard) :=
    ofDocument_of_nodup (by decide +kernel)
  have hrebuilt : (cellar.laidOut .standard).edited rebuilding = rebuilt := rfl
  obtain ⟨hreloads, -⟩ := reload_of_edited hload hrebuilt (.inr rfl) (by decide +kernel)
  obtain ⟨again, r, hread, hr, hids, htargets, hlinked⟩ := hreloads (by decide +kernel)
  have hladder := hlinked ((cellar.laidOut .standard).edited rebuilding.dropLast) "ladder" 0 "door"
    rfl (by decide)
  refine ⟨_, again, r, hload, by decide +kernel, hread, hr, hids.trans ?_, (htargets _ _).trans ?_,
    (htargets _ _).trans ?_, hladder⟩
  all_goals decide +kernel

/-- The door is linked to the room without a name, and is not any more after saving and loading. -/
theorem link_to_nameless_is_lost :
    ∃ g g' again r, ofDocument .standard cellar = .ok g ∧
      (Edit.setLink "door" 1 "").perform.run g = .ok () g' ∧
      g'.target? "door" 1 = some (some "") ∧ (∀ x ∈ g'.toDocument.numbers, x.isFinite = true) ∧
      (∀ x ∈ g'.toDocument.numbers, Document.ReadsBack x) ∧
      Document.read? g'.toDocument.compact = some again ∧ ofDocument .standard again = .ok r ∧
      r.target? "door" 1 = some none := by
  let linked := (cellar.laidOut .standard).edited [.setLink "door" 1 ""]
  have hload : ofDocument .standard cellar = .ok (cellar.laidOut .standard) :=
    ofDocument_of_nodup (by decide +kernel)
  have hdistinct : linked.DistinctIds := (ids_ofDocument hload).2.edited _
  have hfinite : ∀ x ∈ linked.toDocument.numbers, x.isFinite = true := by decide +kernel
  have hback : ∀ x ∈ linked.toDocument.numbers, Document.ReadsBack x := by decide +kernel
  have hread : Document.read? linked.toDocument.compact =
      some linked.toDocument.withReadLinks.stored :=
    Document.read?_of_finite (.inl rfl) hfinite fun x hx _ => hback x hx
  refine ⟨_, linked, _, _, hload, rfl, by decide +kernel, hfinite, hback, hread,
    ofDocument_stored hdistinct, ?_⟩
  rw [target?_reloaded]
  decide +kernel

end Graph

end EventGraph
