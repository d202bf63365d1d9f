import EventGraph.Graph.Validation
import EventGraph.Proofs.Graph.Lookup

/-!
# Links of validated graphs

Where validation finds no issue, every exit leads to a node of the graph and every choice has
an entry.
-/

namespace EventGraph

/-- Lists made place by place are all empty where each item makes an empty one at any place. -/
theorem flatten_mapIdx_eq_nil_iff {β γ : Type} {l : List β} {f : Nat → β → List γ}
    {p : β → Prop} (hf : ∀ i b, f i b = [] ↔ p b) :
    (l.mapIdx f).flatten = [] ↔ ∀ b ∈ l, p b := by
  rw [List.flatten_eq_nil_iff]
  constructor
  · intro h b hb
    obtain ⟨i, hi, rfl⟩ := List.getElem_of_mem hb
    exact (hf i l[i]).mp (h (f i l[i]) (List.mem_mapIdx.mpr ⟨i, hi, rfl⟩))
  · intro h r hr
    obtain ⟨i, hi, rfl⟩ := List.mem_mapIdx.mp hr
    exact (hf i l[i]).mpr (h l[i] (List.getElem_mem hi))

theorem Body.unlinked_eq_nil_iff (b : Body) :
    b.unlinked = [] ↔ none ∉ b.exits ∧ ∀ c, b = .choice c → c.entries ≠ [] := by
  cases b with
  | exec e => cases h : e.next <;> simp [unlinked, exits, h]
  | choice c =>
    have hentries := flatten_mapIdx_eq_nil_iff (l := c.entries)
      (f := fun i e => if e.next.isNone then [IssueKind.entryUnlinked (i + 1) e.text] else [])
      (p := fun e => e.next ≠ none) (fun i e => by cases e.next <;> simp)
    simp only [unlinked, exits, List.append_eq_nil_iff, hentries]
    simp [and_comm]
  | switch s =>
    have hcases := flatten_mapIdx_eq_nil_iff (l := s.cases)
      (f := fun i c => if c.next.isNone then [IssueKind.caseUnlinked (i + 1) c.condition] else [])
      (p := fun c => c.next ≠ none) (fun i c => by cases c.next <;> simp)
    simp only [unlinked, exits, List.append_eq_nil_iff, hcases]
    cases h : s.fallback <;> simp [eq_comm]
  | terminal | comment text => simp [unlinked, exits]

namespace Graph

variable {α : Type} {g : Graph α} {n : Node α}

theorem missingTargets_eq_nil_iff :
    g.missingTargets n = [] ↔ ∀ id, some id ∈ n.body.exits → id ∈ g.ids := by
  unfold missingTargets
  rw [flatten_mapIdx_eq_nil_iff (p := fun t => ∀ id, t = some id → id ∈ g.ids) ?_]
  · constructor
    · exact fun h id hid => h (some id) hid id rfl
    · rintro h _ ht id rfl
      exact h id ht
  · intro i t
    cases t with
    | none => simp
    | some target => simp [contains_iff]

theorem node_of_mem_missingTargets {i : Issue} (h : i ∈ g.missingTargets n) : i.node = n.id := by
  unfold missingTargets at h
  obtain ⟨l, hl, hi⟩ := List.mem_flatten.mp h
  obtain ⟨place, hplace, rfl⟩ := List.mem_mapIdx.mp hl
  split at hi
  · split at hi
    · cases hi
    · rw [List.mem_singleton.mp hi]
  · cases hi

/-- Regrouping the missing targets by node loses none. -/
theorem validateAll_eq_nil_iff :
    g.validateAll = [] ↔ ∀ n ∈ g.nodes, n.validate = [] ∧ g.missingTargets n = [] := by
  simp only [validateAll, List.flatMap_eq_nil_iff, List.append_eq_nil_iff]
  constructor
  · intro h n hn
    refine ⟨(h n hn).1, List.eq_nil_iff_forall_not_mem.mpr fun i hi => ?_⟩
    have hall : i ∈ g.validateTargets := List.mem_flatMap.mpr ⟨n, hn, hi⟩
    have hkept : i ∈ g.validateTargets.filter (·.node == n.id) :=
      List.mem_filter.mpr ⟨hall, beq_iff_eq.mpr (node_of_mem_missingTargets hi)⟩
    rw [(h n hn).2] at hkept
    cases hkept
  · intro h n hn
    have hnone : g.validateTargets = [] := List.flatMap_eq_nil_iff.mpr fun m hm => (h m hm).2
    exact ⟨(h n hn).1, by rw [hnone]; rfl⟩

/-- A target names a node of the graph. -/
def Leads (g : Graph α) (t : Option NodeId) : Prop := ∃ id ∈ g.ids, t = some id

def FullyLinked (g : Graph α) : Prop := ∀ n ∈ g.nodes, ∀ t ∈ n.body.exits, g.Leads t

/-- A graph without issues is fully linked. -/
theorem fullyLinked_of_validateAll (h : g.validateAll = []) : g.FullyLinked := by
  intro n hn t ht
  obtain ⟨hvalid, htargets⟩ := validateAll_eq_nil_iff.mp h n hn
  have hlinked := (Body.unlinked_eq_nil_iff n.body).mp (List.map_eq_nil_iff.mp hvalid)
  cases t with
  | none => exact absurd ht hlinked.1
  | some id => exact ⟨id, missingTargets_eq_nil_iff.mp htargets id ht, rfl⟩

theorem leads_startId? (h : g.nodes ≠ []) : g.Leads g.startId? := by
  unfold startId?
  split
  · rename_i hroot
    exact ⟨rootId, contains_iff.mp hroot, rfl⟩
  · obtain ⟨n, rest, hn⟩ := List.exists_cons_of_ne_nil h
    refine ⟨n.id, ?_, ?_⟩ <;> simp [ids, hn]

end Graph

end EventGraph
