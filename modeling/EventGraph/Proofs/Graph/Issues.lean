import EventGraph.Proofs.Graph.Links
import Mathlib.Data.List.Perm.Basic

/-!
# Issues read off the exits

Validation speaks of exits only, and of choices without entries. Each exit without a target and
each exit whose target is not in the graph is reported once, by its place and its label, in the
order of the nodes and of their exits, and nothing else is reported.
-/

namespace EventGraph

/-- An exit as it stands among the exits of a body. -/
structure ListedExit where
  place : Nat
  label : String
  target : Option NodeId
  deriving Repr, DecidableEq

namespace Body

def listedExits (b : Body) : List ListedExit :=
  (b.exitLabels.zip b.exits).zipIdx.map fun ((label, target), place) => ⟨place, label, target⟩

def lacksEntries : Body → Bool
  | choice c => c.entries.isEmpty
  | exec _ | switch _ | terminal | comment _ => false

/-- What is said of an exit without a target. -/
def missingLink (b : Body) (e : ListedExit) : IssueKind :=
  match b with
  | choice _ => .entryUnlinked (e.place + 1) e.label
  | switch s =>
    if e.place < s.cases.length then .caseUnlinked (e.place + 1) e.label else .noFallback
  | exec _ | terminal | comment _ => .noNext

/-- The exits without a target. A choice without entries has no exits and is reported itself. -/
def missingLinks (b : Body) : List IssueKind :=
  if b.lacksEntries then [.noEntries]
  else (b.listedExits.filter (·.target.isNone)).map b.missingLink

end Body

namespace Graph

variable {α : Type} {g : Graph α} {n : Node α}

/-- A target names no node of the graph. -/
def dangles (g : Graph α) (t : Option NodeId) : Bool := t.any (· ∉ g.ids)

/-- The exits with a target that is not in the graph. -/
def danglingLinks (g : Graph α) (b : Body) : List IssueKind :=
  b.listedExits.filterMap fun e =>
    (e.target.filter (· ∉ g.ids)).map (.missingTarget (e.place + 1))

/-- The issues of a node: its missing links, then its dangling ones, each in exit order. -/
def issuesOf (g : Graph α) (n : Node α) : List Issue :=
  (n.body.missingLinks ++ g.danglingLinks n.body).map (Issue.mk n.id)

/-- All exits of the nodes. -/
def exits (g : Graph α) : List (Option NodeId) := g.nodes.flatMap (·.body.exits)

end Graph

/-! ### Lists made place by place -/

section Places

variable {β γ : Type}

theorem flatten_mapIdx (f : Nat → β → List γ) (l : List β) :
    (l.mapIdx f).flatten = l.zipIdx.flatMap fun (b, place) => f place b := by
  rw [List.mapIdx_eq_zipIdx_map, List.flatMap_def]

/-- What is made of the members of a class, in order, with their places. -/
theorem flatten_mapIdx_if (p : β → Bool) (f : Nat → β → γ) (l : List β) :
    (l.mapIdx fun place b => if p b then [f place b] else []).flatten =
      (l.zipIdx.filter fun x => p x.1).map fun x => f x.2 x.1 := by
  rw [flatten_mapIdx]
  induction l.zipIdx with
  | nil => rfl
  | cons x xs ih =>
    rw [List.flatMap_cons, ih, List.filter_cons]
    cases h : p x.1 <;> simp [h]

end Places

/-! ### The exits of a body -/

namespace Body

theorem listedExits_choice (c : Choice) :
    (choice c).listedExits = c.entries.zipIdx.map fun (e, place) => ⟨place, e.text, e.next⟩ := by
  simp only [listedExits, exitLabels, exits, List.zip_map', List.zipIdx_map, List.map_map]
  rfl

theorem listedExits_switch (s : Switch) :
    (switch s).listedExits =
      (s.cases.zipIdx.map fun (c, place) => ⟨place, c.condition, c.next⟩) ++
        [⟨s.cases.length, "default", s.fallback⟩] := by
  have hzip : (switch s).exitLabels.zip (switch s).exits =
      (s.cases.map fun c => (c.condition, c.next)) ++ [("default", s.fallback)] := by
    simp only [exitLabels, exits]
    rw [List.zip_append (by simp), List.zip_map']
    rfl
  rw [listedExits, hzip, List.zipIdx_append, List.map_append, List.zipIdx_map, List.map_map]
  simp

theorem zipIdx_exits (b : Body) :
    b.exits.zipIdx = b.listedExits.map fun e => (e.target, e.place) := by
  have hlength : b.exits.length ≤ b.exitLabels.length := by simp
  calc b.exits.zipIdx = ((b.exitLabels.zip b.exits).map Prod.snd).zipIdx := by
        rw [List.map_snd_zip hlength]
    _ = b.listedExits.map fun e => (e.target, e.place) := by
        rw [List.zipIdx_map, listedExits, List.map_map]
        rfl

theorem map_target_listedExits (b : Body) : b.listedExits.map (·.target) = b.exits := by
  have htargets := congrArg (List.map Prod.fst) (zipIdx_exits b)
  rw [List.zipIdx_map_fst, List.map_map] at htargets
  exact htargets.symm

/-- The missing links found body by body are those of the exits. -/
theorem unlinked_eq_missingLinks (b : Body) : b.unlinked = b.missingLinks := by
  cases b with
  | exec e => cases h : e.next <;> simp [unlinked, missingLinks, lacksEntries, listedExits,
      exitLabels, exits, missingLink, h]
  | choice c =>
    have hentries : ((choice c).listedExits.filter (·.target.isNone)).map (missingLink (choice c)) =
        (c.entries.mapIdx fun i e =>
          if e.next.isNone then [IssueKind.entryUnlinked (i + 1) e.text] else []).flatten := by
      rw [flatten_mapIdx_if fun e : ChoiceEntry => e.next.isNone, listedExits_choice,
        List.filter_map, List.map_map]
      rfl
    rw [unlinked, missingLinks, hentries, lacksEntries]
    cases c.entries <;> rfl
  | switch s =>
    have hcases : ((s.cases.zipIdx.map fun (c, place) =>
          (⟨place, c.condition, c.next⟩ : ListedExit)).filter (·.target.isNone)).map
            (missingLink (switch s)) =
        (s.cases.mapIdx fun i c =>
          if c.next.isNone then [IssueKind.caseUnlinked (i + 1) c.condition] else []).flatten := by
      rw [flatten_mapIdx_if fun c : SwitchCase => c.next.isNone, List.filter_map, List.map_map]
      apply List.map_congr_left
      rintro ⟨c, place⟩ hmem
      have hplace : place < s.cases.length :=
        List.snd_lt_of_mem_zipIdx (List.mem_of_mem_filter hmem)
      simp only [Function.comp, missingLink, hplace, ↓reduceIte]
    rw [unlinked, missingLinks, lacksEntries, listedExits_switch, List.filter_append,
      List.map_append, hcases]
    cases s.fallback <;> simp [missingLink]
  | terminal | comment text => rfl

theorem length_missingLinks (b : Body) :
    b.missingLinks.length = b.exits.count none + if b.lacksEntries then 1 else 0 := by
  unfold missingLinks
  split
  · rename_i hlacks
    cases b with
    | choice c =>
      have hnone : c.entries = [] := List.isEmpty_iff.mp hlacks
      simp [exits, hnone]
    | exec | switch | terminal | comment => cases hlacks
  · rw [List.length_map, ← List.countP_eq_length_filter, ← map_target_listedExits b, List.count,
      List.countP_map, Nat.add_zero]
    apply List.countP_congr
    intro e _
    cases h : e.target <;> simp [h]

end Body

namespace Graph

variable {α : Type} {g : Graph α} {n : Node α}

/-! ### The issues of a node -/

theorem validate_eq_missingLinks (n : Node α) :
    n.validate = n.body.missingLinks.map (Issue.mk n.id) := by
  rw [Node.validate, Body.unlinked_eq_missingLinks]

theorem missingTargets_eq_danglingLinks (g : Graph α) (n : Node α) :
    g.missingTargets n = (g.danglingLinks n.body).map (Issue.mk n.id) := by
  rw [missingTargets, flatten_mapIdx, Body.zipIdx_exits, List.flatMap_map, danglingLinks,
    List.map_filterMap, List.filterMap_eq_flatMap_toList]
  apply List.flatMap_congr
  intro e _
  cases h : e.target with
  | none => rfl
  | some target => by_cases hids : target ∈ g.ids <;> simp [contains_iff, hids, Option.filter]

theorem length_danglingLinks (g : Graph α) (b : Body) :
    (g.danglingLinks b).length = b.exits.countP g.dangles := by
  rw [danglingLinks, List.length_filterMap_eq_countP, ← Body.map_target_listedExits b,
    List.countP_map]
  apply List.countP_congr
  intro e _
  cases h : e.target <;> simp [dangles, h]

/-! ### The issues of a graph -/

/-- With distinct ids, what the nodes of a list contribute is found again by their ids. -/
theorem filter_node_flatMap {f : Node α → List Issue} {nodes : List (Node α)}
    (hf : ∀ m : Node α, ∀ i ∈ f m, i.node = m.id) (hids : (nodes.map (·.id)).Nodup)
    (hn : n ∈ nodes) : (nodes.flatMap f).filter (·.node == n.id) = f n := by
  -- Nothing is kept of a node with another id.
  have hother {m : Node α} (hne : m.id ≠ n.id) : (f m).filter (·.node == n.id) = [] := by
    rw [List.filter_eq_nil_iff]
    intro i hi
    rw [beq_iff_eq, hf m i hi]
    exact hne
  have hown : (f n).filter (·.node == n.id) = f n := by
    rw [List.filter_eq_self]
    intro i hi
    rw [beq_iff_eq, hf n i hi]
  induction nodes with
  | nil => cases hn
  | cons m rest ih =>
    rw [List.map_cons, List.nodup_cons] at hids
    obtain ⟨hfresh, hrest⟩ := hids
    rw [List.flatMap_cons, List.filter_append]
    rcases List.mem_cons.mp hn with rfl | hmem
    · have hnone : (rest.flatMap f).filter (·.node == n.id) = [] := by
        rw [List.filter_flatMap, List.flatMap_eq_nil_iff]
        intro m hm
        apply hother
        intro heq
        exact hfresh (heq ▸ List.mem_map_of_mem hm)
      rw [hown, hnone, List.append_nil]
    · have hne : m.id ≠ n.id := by
        intro heq
        exact hfresh (heq ▸ List.mem_map_of_mem hmem)
      rw [hother hne, List.nil_append, ih hrest hmem]

theorem validateAll_eq_flatMap (hids : g.DistinctIds) :
    g.validateAll = g.nodes.flatMap fun n => n.validate ++ g.missingTargets n := by
  apply List.flatMap_congr
  intro n hn
  have hkept : g.validateTargets.filter (·.node == n.id) = g.missingTargets n :=
    filter_node_flatMap (fun _ _ hi => node_of_mem_missingTargets hi) hids hn
  rw [hkept]

theorem issuesOf_eq_append (g : Graph α) (n : Node α) :
    g.issuesOf n = n.validate ++ g.missingTargets n := by
  rw [issuesOf, List.map_append, validate_eq_missingLinks, missingTargets_eq_danglingLinks]

theorem length_validate (g : Graph α) :
    g.validate.length = g.exits.count none + g.nodes.countP (·.body.lacksEntries) := by
  unfold validate exits
  induction g.nodes with
  | nil => rfl
  | cons n rest ih =>
    have hn : n.validate.length =
        n.body.exits.count none + if n.body.lacksEntries then 1 else 0 := by
      rw [validate_eq_missingLinks, List.length_map, Body.length_missingLinks]
    rw [List.flatMap_cons, List.flatMap_cons, List.length_append, List.count_append,
      List.countP_cons, ih, hn]
    omega

theorem length_validateTargets (g : Graph α) :
    g.validateTargets.length = g.exits.countP g.dangles := by
  unfold validateTargets exits
  induction g.nodes with
  | nil => rfl
  | cons n rest ih =>
    have hn : (g.missingTargets n).length = n.body.exits.countP g.dangles := by
      rw [missingTargets_eq_danglingLinks, List.length_map, length_danglingLinks]
    rw [List.flatMap_cons, List.flatMap_cons, List.length_append, List.countP_append, ih, hn]

/-- Nothing is reported of a graph exactly if its exits all lead to nodes of it and its choices
have entries. -/
theorem validateAll_eq_nil_iff_linked :
    g.validateAll = [] ↔
      g.FullyLinked ∧ ∀ n ∈ g.nodes, ∀ c, n.body = .choice c → c.entries ≠ [] := by
  constructor
  · intro h
    refine ⟨fullyLinked_of_validateAll h, ?_⟩
    intro n hn
    have hvalid : n.body.unlinked = [] :=
      List.map_eq_nil_iff.mp (validateAll_eq_nil_iff.mp h n hn).1
    exact ((Body.unlinked_eq_nil_iff n.body).mp hvalid).2
  · rintro ⟨hlinked, hentries⟩
    rw [validateAll_eq_nil_iff]
    intro n hn
    constructor
    · have hnone : none ∉ n.body.exits := by
        intro hmem
        obtain ⟨id, -, hid⟩ := hlinked n hn none hmem
        cases hid
      have hvalid := (Body.unlinked_eq_nil_iff n.body).mpr ⟨hnone, hentries n hn⟩
      rw [Node.validate, hvalid, List.map_nil]
    · rw [missingTargets_eq_nil_iff]
      intro id hmem
      obtain ⟨target, htarget, hid⟩ := hlinked n hn (some id) hmem
      rwa [Option.some.inj hid]

/-- **The issues of a graph with distinct ids are those of its nodes, in order, read off the exits
of each: as many as there are exits without a target, exits to ids that are not there, and choices
without entries. They are what the two validations by themselves report, grouped by node.** -/
theorem validateAll_exact (g : Graph α) (hids : g.DistinctIds) :
    g.validateAll.Perm (g.validate ++ g.validateTargets) ∧
    g.validateAll = g.nodes.flatMap g.issuesOf ∧
    g.validateAll.length = g.exits.count none + g.exits.countP g.dangles +
      g.nodes.countP (·.body.lacksEntries) ∧
    (g.validateAll = [] ↔
      (∀ n ∈ g.nodes, ∀ t ∈ n.body.exits, ∃ id ∈ g.ids, t = some id) ∧
        ∀ n ∈ g.nodes, ∀ c, n.body = .choice c → c.entries ≠ []) := by
  have hgrouped := validateAll_eq_flatMap hids
  have hperm : g.validateAll.Perm (g.validate ++ g.validateTargets) := by
    rw [hgrouped]
    exact (List.flatMap_append_perm g.nodes Node.validate g.missingTargets).symm
  refine ⟨hperm, ?_, ?_, validateAll_eq_nil_iff_linked⟩
  · rw [hgrouped]
    apply List.flatMap_congr
    intro n _
    exact (issuesOf_eq_append g n).symm
  · have hlength := hperm.length_eq
    rw [List.length_append, length_validate, length_validateTargets] at hlength
    omega

/-- A draft with a choice that has no entries and a switch two of whose three exits lead nowhere. -/
def draft : Graph Float32 where
  nodes := [
    .create "root" (.switch {
      cases := [{ condition := "IS(lost)", next := some "attic" }, { condition := "IS(late)" }]
      fallback := some "talk" }),
    .create "talk" (.choice { prompt := "Well?" }),
    .create "note" (.comment "To be written."),
    .create "exit" (.exec { text := "Out." })]

/-- Four issues: the second case, the attic, the empty choice and the last node. -/
theorem validateAll_exact_draft : draft.DistinctIds ∧ draft.validateAll.length = 4 ∧
    draft.validateAll.Perm (draft.validate ++ draft.validateTargets) ∧
    draft.validateAll = [
      ⟨"root", .caseUnlinked 2 "IS(late)"⟩, ⟨"root", .missingTarget 1 "attic"⟩,
      ⟨"talk", .noEntries⟩, ⟨"exit", .noNext⟩] := by
  have hids : draft.DistinctIds := by
    show draft.ids.Nodup
    decide
  obtain ⟨hperm, hissues, hlength, -⟩ := validateAll_exact draft hids
  refine ⟨hids, ?_, hperm, ?_⟩
  · rw [hlength]
    decide
  · rw [hissues]
    decide

end Graph

end EventGraph
