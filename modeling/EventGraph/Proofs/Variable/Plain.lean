import EventGraph.Proofs.Variable.Expansion
import Mathlib.Logic.Relation

/-!
# Plain recursion

What declarations make visible if every graph is expanded anew wherever it is imported from.
Where no chain of imports comes back to a graph on it, that is what is resolved.
-/

namespace EventGraph.Variable

/-- What a graph of the library declares; a graph that is not in it declares nothing. -/
def Library.declared (library : Library) (graph : String) : List Variable :=
  (library.get? graph).getD []

/-- Binds imports in order to what the graphs that `provided` stands for provide. -/
def bindFrom (provided : String → Bindings) (vs : List Variable) (visible : Bindings) : Bindings :=
  vs.foldl (fun visible v => visible.put v.key (v.valueFrom (provided v.importFrom))) visible

/-- Declarations are made visible by recursion on the graphs they import from, each for itself. -/
inductive Plain (library : Library) : List Variable → Bindings → Prop
  | intro {declared : List Variable} (provided : String → Bindings) :
      (∀ v ∈ imports declared,
        Plain library (library.declared v.importFrom) (provided v.importFrom)) →
      Plain library declared
        (bindLocals (locals declared) (bindFrom provided (imports declared) []))

/-- A graph of the library has an import from another. -/
def Draws (library : Library) (graph other : String) : Prop :=
  ∃ v ∈ imports (library.declared graph), v.importFrom = other

/-- A chain of imports that begins with one of some declarations comes to a graph. -/
def Reaches (library : Library) (declared : List Variable) (graph : String) : Prop :=
  ∃ v ∈ imports declared, Relation.ReflTransGen (Draws library) v.importFrom graph

/-- A chain of imports leads from a graph back to it. -/
def Circular (library : Library) (graph : String) : Prop :=
  Relation.TransGen (Draws library) graph graph

variable {library : Library} {active order : List String} {graph other : String}
  {vs declared : List Variable} {visible visible' : Bindings} {done done' : Expanded}

theorem Plain.unique (h : Plain library declared visible) (h' : Plain library declared visible') :
    visible = visible' := by
  induction h generalizing visible' with
  | intro provided _ ih =>
    obtain ⟨provided', hprovided'⟩ := h'
    congr 1
    refine List.foldl_ext _ _ _ fun visible v hv => ?_
    rw [ih v hv (hprovided' v hv)]

/-- Plain recursion as a function, on the graphs on which it ends. -/
theorem exists_plain_function (library : Library) :
    ∃ provided : String → Bindings, ∀ graph visible,
      Plain library (library.declared graph) visible → provided graph = visible := by
  have hchoice (graph : String) : ∃ provided, ∀ visible,
      Plain library (library.declared graph) visible → provided = visible := by
    by_cases h : ∃ visible, Plain library (library.declared graph) visible
    · obtain ⟨provided, hprovided⟩ := h
      exact ⟨provided, fun _ => hprovided.unique⟩
    · exact ⟨[], fun visible hvisible => absurd ⟨visible, hvisible⟩ h⟩
  exact Classical.skolem.mp hchoice

/-- No chain of imports from a graph comes to one that is being expanded, or to one twice. -/
structure Fresh (library : Library) (active : List String) (graph : String) : Prop where
  apart : ∀ other ∈ active, ¬ Relation.ReflTransGen (Draws library) graph other
  acyclic : ∀ other, Relation.ReflTransGen (Draws library) graph other → ¬ Circular library other

theorem Fresh.draws (h : Fresh library active graph) (hdraws : Draws library graph other) :
    Fresh library (graph :: active) other where
  apart target htarget hpath := by
    obtain rfl | hactive := List.mem_cons.mp htarget
    · exact h.acyclic target .refl (.head' hdraws hpath)
    · exact h.apart target hactive (.head hdraws hpath)
  acyclic target hpath := h.acyclic target (.head hdraws hpath)

/-- Every graph that is done provides what it does by plain recursion. -/
def PlainDone (library : Library) (done : Expanded) : Prop :=
  ∀ graph visible, done.get? graph = some visible → Plain library (library.declared graph) visible

/-- Imports that are bound to what plain recursion provides. -/
structure BoundPlainly (library : Library) (provided : String → Bindings) (vs : List Variable)
    (visible visible' : Bindings) : Prop where
  plain : ∀ v ∈ vs, Plain library (library.declared v.importFrom) (provided v.importFrom)
  eq : visible' = bindFrom provided vs visible

section

variable {provided : String → Bindings} (hprovided : ∀ graph visible,
  Plain library (library.declared graph) visible → provided graph = visible)
include hprovided

theorem BoundPlainly.cons {v : Variable} {rest : List Variable} {found : Bindings}
    (hfound : Plain library (library.declared v.importFrom) found)
    (h : BoundPlainly library provided rest (visible.put v.key (v.valueFrom found)) visible') :
    BoundPlainly library provided (v :: rest) visible visible' := by
  obtain rfl := hprovided _ _ hfound
  exact ⟨List.forall_mem_cons.mpr ⟨hfound, h.plain⟩, h.eq⟩

/-- Graphs that are expanded once provide what they do by plain recursion. -/
theorem Binds.boundPlainly (h : Binds library active vs visible done visible' done' order)
    (hfresh : ∀ v ∈ vs, Fresh library active v.importFrom) (hdone : PlainDone library done) :
    BoundPlainly library provided vs visible visible' ∧ PlainDone library done' := by
  induction h with
  | nil => exact ⟨⟨List.forall_mem_nil _, rfl⟩, hdone⟩
  | cyclic hactive _ ih =>
    rw [List.forall_mem_cons] at hfresh
    exact absurd .refl (hfresh.1.apart _ hactive)
  | cached _ hfound _ ih =>
    rw [List.forall_mem_cons] at hfresh
    obtain ⟨hrest, hdone'⟩ := ih hfresh.2 hdone
    exact ⟨.cons hprovided (hdone _ _ hfound) hrest, hdone'⟩
  | @unknown _ _ v _ _ _ _ _ _ _ hunknown _ ih =>
    rw [List.forall_mem_cons] at hfresh
    obtain ⟨hrest, hdone'⟩ := ih hfresh.2 hdone
    have hnothing : Plain library (library.declared v.importFrom) [] := by
      rw [Library.declared, hunknown]
      exact .intro (fun _ => []) (List.forall_mem_nil _)
    exact ⟨.cons hprovided hnothing hrest, hdone'⟩
  | @expanded _ _ _ v _ declared _ _ _ _ _ _ _ _ hknown _ _ ih ihrest =>
    rw [List.forall_mem_cons] at hfresh
    obtain rfl : library.declared v.importFrom = declared := by
      rw [Library.declared, hknown, Option.getD_some]
    obtain ⟨⟨hplain, rfl⟩, hdone'⟩ := ih (fun w hw => hfresh.1.draws ⟨w, hw, rfl⟩) hdone
    have hfound := Plain.intro provided hplain
    obtain ⟨hrest, hdone''⟩ :=
      ihrest hfresh.2 (Table.forall_get?_cons hfound hdone')
    exact ⟨.cons hprovided hfound hrest, hdone''⟩

end

theorem plain_resolveDeclared (hacyclic : ∀ other, Reaches library declared other →
      ¬ Circular library other) (hgraph : ¬ Reaches library declared graph) :
    Plain library declared (resolveDeclared library graph declared) := by
  obtain ⟨provided, hprovided⟩ := exists_plain_function library
  obtain ⟨order, hresolves⟩ := exists_resolvesDeclared library graph declared
  generalize resolveDeclared library graph declared = visible at hresolves
  obtain ⟨hbinds⟩ := hresolves
  have hfresh : ∀ v ∈ imports declared, Fresh library [graph] v.importFrom := by
    intro v hv
    refine ⟨fun other hother hpath => ?_, fun other hpath => hacyclic other ⟨v, hv, hpath⟩⟩
    obtain rfl := List.mem_singleton.mp hother
    exact hgraph ⟨v, hv, hpath⟩
  have hnone : PlainDone library [] := fun _ _ hfound => nomatch hfound
  obtain ⟨⟨hplain, rfl⟩, -⟩ := hbinds.boundPlainly hprovided hfresh hnone
  exact .intro provided hplain

theorem plain_iff_of_acyclic (hacyclic : ∀ other, Reaches library declared other →
      ¬ Circular library other) (hgraph : ¬ Reaches library declared graph) (visible : Bindings) :
    Plain library declared visible ↔ visible = resolveDeclared library graph declared := by
  have hplain := plain_resolveDeclared hacyclic hgraph
  refine ⟨fun h => h.unique hplain, ?_⟩
  rintro rfl
  exact hplain

theorem resolve_eq_resolveDeclared (library : Library) (graph : String) :
    resolve library graph = resolveDeclared library graph (library.declared graph) := by
  unfold resolve Library.declared
  split
  · rename_i declared hknown
    rw [hknown, Option.getD_some]
  · rename_i hunknown
    rw [hunknown]
    rfl

/-- **A graph whose chains of imports never come back to a graph on the chain is resolved to
what plain recursion makes visible, in the same order. So are given declarations, if no chain
of their imports comes to the graph they are given for.** -/
theorem plain_iff_resolved (library : Library) :
    (∀ graph, (∀ other, Relation.ReflTransGen (Draws library) graph other →
      ¬ Circular library other) → ∀ visible,
        Plain library (library.declared graph) visible ↔ visible = resolve library graph) ∧
    ∀ graph declared, (∀ other, Reaches library declared other → ¬ Circular library other) →
      ¬ Reaches library declared graph → ∀ visible,
        Plain library declared visible ↔ visible = resolveDeclared library graph declared := by
  refine ⟨fun graph hacyclic visible => ?_, fun _ _ => plain_iff_of_acyclic⟩
  have hdraws {other : String} (h : Reaches library (library.declared graph) other) :
      Relation.TransGen (Draws library) graph other := by
    obtain ⟨v, hv, hpath⟩ := h
    exact .head' ⟨v, hv, rfl⟩ hpath
  rw [resolve_eq_resolveDeclared]
  exact plain_iff_of_acyclic (fun other h => hacyclic other (hdraws h).to_reflTransGen)
    (fun h => hacyclic graph .refl (hdraws h)) visible

section Sorted

variable {sorted : List String} (hsorted : ∀ entry ∈ library, ∀ v ∈ imports entry.2,
  sorted.idxOf v.importFrom < sorted.idxOf entry.1)
include hsorted

theorem idxOf_lt_of_draws (h : Draws library graph other) :
    sorted.idxOf other < sorted.idxOf graph := by
  obtain ⟨v, hv, rfl⟩ := h
  rw [Library.declared] at hv
  cases hknown : library.get? graph with
  | none =>
    rw [hknown] at hv
    cases hv
  | some declared =>
    rw [hknown] at hv
    exact hsorted _ (Table.mem_of_get? hknown) v hv

theorem idxOf_lt_of_transGen (h : Relation.TransGen (Draws library) graph other) :
    sorted.idxOf other < sorted.idxOf graph := by
  induction h with
  | single hdraws => exact idxOf_lt_of_draws hsorted hdraws
  | tail _ hdraws ih => exact Nat.lt_trans (idxOf_lt_of_draws hsorted hdraws) ih

/-- No chain of imports comes back where each graph imports from earlier ones only. -/
theorem not_circular_of_sorted (graph : String) : ¬ Circular library graph :=
  fun h => Nat.lt_irrefl _ (idxOf_lt_of_transGen hsorted h)

theorem not_reaches_of_sorted
    (h : ∀ v ∈ imports declared, sorted.idxOf v.importFrom < sorted.idxOf graph) :
    ¬ Reaches library declared graph := by
  rintro ⟨v, hv, hpath⟩
  obtain rfl | hpath := Relation.reflTransGen_iff_eq_or_transGen.mp hpath
  · exact Nat.lt_irrefl _ (h v hv)
  · exact Nat.lt_asymm (h v hv) (idxOf_lt_of_transGen hsorted hpath)

end Sorted

/-- Two chapters and what is common to them; the second draws on the first too. -/
def chapters : Library := [
  ("common", [{ key := "hero", value := "Aria" }, { key := "gold", value := "10" }]),
  ("first", [{ key := "hero", value := "?", importFrom := "common" },
    { key := "town", value := "Mill" }]),
  ("second", [{ key := "town", value := "?", importFrom := "first" },
    { key := "hero", value := "?", importFrom := "first" },
    { key := "gold", value := "0", importFrom := "common" },
    { key := "sword", value := "none", importFrom := "attic" },
    { key := "town", value := "Ford" }])]

/-- A chapter that is not in the library yet. -/
def sketch : List Variable := [
  { key := "gold", value := "0", importFrom := "second" },
  { key := "hero", value := "?", importFrom := "common" }]

theorem plain_chapters :
    (∀ other, Relation.ReflTransGen (Draws chapters) "second" other → ¬ Circular chapters other) ∧
    Plain chapters (chapters.declared "second")
      [("town", "Ford"), ("hero", "Aria"), ("gold", "10"), ("sword", "none")] ∧
    (∀ other, Reaches chapters sketch other → ¬ Circular chapters other) ∧
    ¬ Reaches chapters sketch "third" ∧
    Plain chapters sketch [("gold", "10"), ("hero", "Aria")] := by
  have hsorted : ∀ entry ∈ chapters, ∀ v ∈ imports entry.2,
      ["attic", "common", "first", "second"].idxOf v.importFrom <
        ["attic", "common", "first", "second"].idxOf entry.1 := by decide +kernel
  have hacyclic (other : String) : ¬ Circular chapters other := not_circular_of_sorted hsorted other
  have hthird : ¬ Reaches chapters sketch "third" :=
    not_reaches_of_sorted hsorted (by decide +kernel)
  obtain ⟨hnamed, hgiven⟩ := plain_iff_resolved chapters
  refine ⟨fun other _ => hacyclic other, ?_, fun other _ => hacyclic other, hthird, ?_⟩
  · exact (hnamed "second" (fun other _ => hacyclic other) _).mpr (by decide +kernel)
  · exact (hgiven "third" sketch (fun other _ => hacyclic other) hthird _).mpr (by decide +kernel)

end EventGraph.Variable
