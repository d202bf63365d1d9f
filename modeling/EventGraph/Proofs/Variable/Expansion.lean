import EventGraph.Variable.Resolution
import Mathlib.Data.List.Nodup

/-!
# Expansions

How imports are bound, as rules that put no bound on the depth. In every library a resolution
comes to its end, and it expands the declarations of no graph twice.
-/

namespace EventGraph.Variable

def imports (declared : List Variable) : List Variable := declared.filter (·.isImported)

def locals (declared : List Variable) : List Variable := declared.filter (!·.isImported)

/-- What an import takes from the bindings that the other graph provides. -/
def valueFrom (v : Variable) (provided : Bindings) : String := (provided.get? v.key).getD v.value

/-- Imports are bound one after another while the graphs in `active` are being expanded, which
leads from the bindings and the expanded graphs before to those after. The last list names the
graphs whose declarations are expanded for it, in the order in which that ends. -/
inductive Binds (library : Library) : List String → List Variable → Bindings → Expanded →
    Bindings → Expanded → List String → Prop
  | nil {active : List String} {visible : Bindings} {done : Expanded} :
      Binds library active [] visible done visible done []
  | cyclic {active order : List String} {v : Variable} {rest : List Variable}
      {visible visible' : Bindings} {done done' : Expanded} :
      v.importFrom ∈ active →
      Binds library active rest (visible.put v.key v.value) done visible' done' order →
      Binds library active (v :: rest) visible done visible' done' order
  | cached {active order : List String} {v : Variable} {rest : List Variable}
      {provided visible visible' : Bindings} {done done' : Expanded} :
      v.importFrom ∉ active → done.get? v.importFrom = some provided →
      Binds library active rest (visible.put v.key (v.valueFrom provided)) done visible' done'
        order →
      Binds library active (v :: rest) visible done visible' done' order
  | unknown {active order : List String} {v : Variable} {rest : List Variable}
      {visible visible' : Bindings} {done done' : Expanded} :
      v.importFrom ∉ active → done.get? v.importFrom = none →
      library.get? v.importFrom = none →
      Binds library active rest (visible.put v.key v.value) done visible' done' order →
      Binds library active (v :: rest) visible done visible' done' order
  | expanded {active order order' : List String} {v : Variable} {rest declared : List Variable}
      {imported visible visible' : Bindings} {done done' done'' : Expanded} :
      v.importFrom ∉ active → done.get? v.importFrom = none →
      library.get? v.importFrom = some declared →
      Binds library (v.importFrom :: active) (imports declared) [] done imported done' order →
      Binds library active rest
        (visible.put v.key (v.valueFrom (bindLocals (locals declared) imported)))
        ((v.importFrom, bindLocals (locals declared) imported) :: done') visible' done'' order' →
      Binds library active (v :: rest) visible done visible' done''
        (order ++ v.importFrom :: order')

/-- A resolution from given declarations that has come to its end, with the graphs whose
declarations it has expanded. -/
inductive ResolvesDeclared (library : Library) (graph : String) (declared : List Variable) :
    Bindings → List String → Prop
  | intro {imported : Bindings} {done : Expanded} {order : List String} :
      Binds library [graph] (imports declared) [] [] imported done order →
      ResolvesDeclared library graph declared (bindLocals (locals declared) imported)
        (order ++ [graph])

inductive Resolves (library : Library) (graph : String) : Bindings → List String → Prop
  | unknown : library.get? graph = none → Resolves library graph [] []
  | known {declared : List Variable} {visible : Bindings} {order : List String} :
      library.get? graph = some declared →
      ResolvesDeclared library graph declared visible order → Resolves library graph visible order

variable {library : Library} {active order order' : List String} {graph : String}
  {vs declared : List Variable} {visible visible' visible'' : Bindings}
  {done done' done'' : Expanded}

/-! ### Every resolution ends -/

/-- The graphs of the library that are not being expanded. -/
def idle (library : Library) (active : List String) : List String :=
  library.keys.filter (· ∉ active)

theorem length_idle_le (library : Library) (active : List String) :
    (idle library active).length ≤ library.length := by
  have hkeys : library.keys.length = library.length := List.length_map _
  rw [← hkeys]
  exact List.length_filter_le _ _

theorem length_idle_cons_lt (hknown : library.get? graph = some declared)
    (hactive : graph ∉ active) :
    (idle library (graph :: active)).length < (idle library active).length := by
  have hidle : idle library (graph :: active) = (idle library active).filter (· ≠ graph) := by
    simp only [idle, List.filter_filter, List.mem_cons, not_or, ← Bool.decide_and, ne_eq]
  have hkeys : graph ∈ library.keys := by
    by_contra hkeys
    rw [Table.get?_eq_none_iff.mpr hkeys] at hknown
    cases hknown
  rw [hidle, List.length_filter_lt_length_iff_exists]
  exact ⟨graph, List.mem_filter.mpr ⟨hkeys, decide_eq_true hactive⟩, by simp⟩

/-- Each step down is to a graph that was idle, so there are fewer idle graphs below it. -/
theorem exists_binds (bound : Nat) (hbound : (idle library active).length < bound)
    (vs : List Variable) (visible : Bindings) (done : Expanded) :
    ∃ visible' done' order, Binds library active vs visible done visible' done' order := by
  induction bound generalizing active vs visible done with
  | zero => exact absurd hbound (Nat.not_lt_zero _)
  | succ bound ih =>
    induction vs generalizing visible done with
    | nil => exact ⟨visible, done, [], .nil⟩
    | cons v rest ihrest =>
      by_cases hactive : v.importFrom ∈ active
      · obtain ⟨visible', done', order, hrest⟩ := ihrest (visible.put v.key v.value) done
        exact ⟨visible', done', order, .cyclic hactive hrest⟩
      cases hdone : done.get? v.importFrom with
      | some provided =>
        obtain ⟨visible', done', order, hrest⟩ :=
          ihrest (visible.put v.key (v.valueFrom provided)) done
        exact ⟨visible', done', order, .cached hactive hdone hrest⟩
      | none =>
        cases hknown : library.get? v.importFrom with
        | none =>
          obtain ⟨visible', done', order, hrest⟩ := ihrest (visible.put v.key v.value) done
          exact ⟨visible', done', order, .unknown hactive hdone hknown hrest⟩
        | some declared =>
          have hfewer := length_idle_cons_lt hknown hactive
          obtain ⟨imported, done', order, himports⟩ :=
            @ih (v.importFrom :: active) (by omega) (imports declared) [] done
          obtain ⟨visible', done'', order', hrest⟩ := ihrest
            (visible.put v.key (v.valueFrom (bindLocals (locals declared) imported)))
            ((v.importFrom, bindLocals (locals declared) imported) :: done')
          exact ⟨visible', done'', order ++ v.importFrom :: order',
            .expanded hactive hdone hknown himports hrest⟩

/-! ### What is computed -/

/-- A depth above the number of idle graphs is never used up. -/
theorem Binds.bindImports_eq (h : Binds library active vs visible done visible' done' order)
    {depth : Nat} (hdepth : (idle library active).length < depth) :
    bindImports (expand library depth active) vs visible done = (visible', done') := by
  induction h generalizing depth with
  | nil => rfl
  | cyclic hactive _ ih =>
    obtain ⟨depth, rfl⟩ := Nat.exists_eq_add_one_of_ne_zero (Nat.ne_zero_of_lt hdepth)
    rw [← ih hdepth, bindImports, expand, if_pos (List.contains_iff_mem.mpr hactive)]
    rfl
  | cached hactive hdone _ ih =>
    obtain ⟨depth, rfl⟩ := Nat.exists_eq_add_one_of_ne_zero (Nat.ne_zero_of_lt hdepth)
    rw [← ih hdepth, bindImports, expand, if_neg (by simpa using hactive), hdone]
    rfl
  | unknown hactive hdone hknown _ ih =>
    obtain ⟨depth, rfl⟩ := Nat.exists_eq_add_one_of_ne_zero (Nat.ne_zero_of_lt hdepth)
    rw [← ih hdepth, bindImports, expand, if_neg (by simpa using hactive), hdone, hknown]
    rfl
  | expanded hactive hdone hknown _ _ ih ihrest =>
    obtain ⟨depth, rfl⟩ := Nat.exists_eq_add_one_of_ne_zero (Nat.ne_zero_of_lt hdepth)
    have hfewer := length_idle_cons_lt hknown hactive
    have himports := @ih depth (by omega)
    unfold imports at himports
    rw [← ihrest hdepth, bindImports, expand, if_neg (by simpa using hactive), hdone, hknown]
    simp only [expandDeclared, himports]
    rfl

/-- Every expansion leaves its graph among those that are done. -/
theorem Binds.keys_eq (h : Binds library active vs visible done visible' done' order) :
    done'.keys = order.reverse ++ done.keys := by
  induction h with
  | nil => rfl
  | cyclic _ _ ih | cached _ _ _ ih | unknown _ _ _ _ ih => exact ih
  | expanded _ _ _ _ _ ih ihrest =>
    rw [ihrest, Table.keys_cons, ih]
    simp

theorem Binds.order_eq (h : Binds library active vs visible done visible' done' order)
    (h' : Binds library active vs visible done visible'' done'' order') : order' = order := by
  have hsame := (h'.bindImports_eq (Nat.lt_succ_self _)).symm.trans
    (h.bindImports_eq (Nat.lt_succ_self _))
  obtain ⟨-, rfl⟩ := Prod.mk.inj hsame
  have hkeys := h'.keys_eq.symm.trans h.keys_eq
  exact List.reverse_injective (List.append_cancel_right hkeys)

theorem ResolvesDeclared.eq_resolveDeclared
    (h : ResolvesDeclared library graph declared visible order) :
    visible = resolveDeclared library graph declared := by
  obtain ⟨hbinds⟩ := h
  have hdepth := Nat.lt_succ_of_le (length_idle_le library [graph])
  have himports := hbinds.bindImports_eq hdepth
  unfold imports at himports
  simp only [resolveDeclared, expandDeclared, himports]
  rfl

/-! ### No graph is expanded twice -/

theorem Binds.not_mem_order (h : Binds library active vs visible done visible' done' order)
    (hactive : graph ∈ active) : graph ∉ order := by
  induction h with
  | nil => exact List.not_mem_nil
  | cyclic _ _ ih | cached _ _ _ ih | unknown _ _ _ _ ih => exact ih hactive
  | expanded hnew _ _ _ _ ih ihrest =>
    rw [List.mem_append, List.mem_cons, not_or, not_or]
    refine ⟨ih (List.mem_cons_of_mem _ hactive), ?_, ihrest hactive⟩
    rintro rfl
    exact hnew hactive

theorem Binds.nodup_keys (h : Binds library active vs visible done visible' done' order)
    (hdone : done.keys.Nodup) : done'.keys.Nodup := by
  induction h with
  | nil => exact hdone
  | cyclic _ _ ih | cached _ _ _ ih | unknown _ _ _ _ ih => exact ih hdone
  | expanded _ hfresh _ himports _ ih ihrest =>
    refine ihrest ?_
    rw [Table.keys_cons, List.nodup_cons, himports.keys_eq, List.mem_append, List.mem_reverse,
      not_or, ← himports.keys_eq]
    exact ⟨⟨himports.not_mem_order List.mem_cons_self, Table.get?_eq_none_iff.mp hfresh⟩,
      ih hdone⟩

theorem ResolvesDeclared.nodup (h : ResolvesDeclared library graph declared visible order) :
    order.Nodup := by
  obtain ⟨hbinds⟩ := h
  have hkeys := hbinds.nodup_keys List.nodup_nil
  rw [hbinds.keys_eq, Table.keys, List.map_nil, List.append_nil, List.nodup_reverse] at hkeys
  rw [List.nodup_append_comm, List.singleton_append, List.nodup_cons]
  exact ⟨hbinds.not_mem_order List.mem_cons_self, hkeys⟩

theorem ResolvesDeclared.order_eq
    (h : ResolvesDeclared library graph declared visible order)
    (h' : ResolvesDeclared library graph declared visible' order') : order' = order := by
  obtain ⟨hbinds⟩ := h
  obtain ⟨hbinds'⟩ := h'
  rw [hbinds.order_eq hbinds']

theorem exists_resolvesDeclared (library : Library) (graph : String) (declared : List Variable) :
    ∃ order,
      ResolvesDeclared library graph declared (resolveDeclared library graph declared) order := by
  obtain ⟨imported, done, order, hbinds⟩ :=
    exists_binds _ (Nat.lt_succ_self (idle library [graph]).length) (imports declared) [] []
  have hresolves := ResolvesDeclared.intro hbinds
  exact ⟨_, hresolves.eq_resolveDeclared ▸ hresolves⟩

theorem ResolvesDeclared.mem_order
    (h : ResolvesDeclared library graph declared visible order) : graph ∈ order := by
  obtain ⟨-⟩ := h
  exact List.mem_append_right _ (List.mem_singleton_self graph)

theorem resolvesDeclared_iff (library : Library) (graph : String) (declared : List Variable) :
    ∃ order, order.Nodup ∧ graph ∈ order ∧ ∀ visible order',
      ResolvesDeclared library graph declared visible order' ↔
        visible = resolveDeclared library graph declared ∧ order' = order := by
  obtain ⟨order, hresolves⟩ := exists_resolvesDeclared library graph declared
  refine ⟨order, hresolves.nodup, hresolves.mem_order, fun visible order' => ⟨fun h => ?_, ?_⟩⟩
  · exact ⟨h.eq_resolveDeclared, hresolves.order_eq h⟩
  · rintro ⟨rfl, rfl⟩
    exact hresolves

theorem resolves_iff (library : Library) (graph : String) :
    ∃ order, order.Nodup ∧ ∀ visible order',
      Resolves library graph visible order' ↔
        visible = resolve library graph ∧ order' = order := by
  cases hknown : library.get? graph with
  | none =>
    refine ⟨[], List.nodup_nil, fun visible order' => ⟨fun h => ?_, ?_⟩⟩
    · cases h with
      | unknown => exact ⟨by rw [resolve, hknown], rfl⟩
      | known hdeclared => cases hknown.symm.trans hdeclared
    · rw [resolve, hknown]
      rintro ⟨rfl, rfl⟩
      exact .unknown hknown
  | some declared =>
    obtain ⟨order, hnodup, -, hiff⟩ := resolvesDeclared_iff library graph declared
    refine ⟨order, hnodup, fun visible order' => ?_⟩
    rw [resolve, hknown]
    refine Iff.trans ⟨fun h => ?_, .known hknown⟩ (hiff visible order')
    cases h with
    | unknown hunknown => cases hknown.symm.trans hunknown
    | known hdeclared hresolves => exact Option.some.inj (hknown.symm.trans hdeclared) ▸ hresolves

/-- **Whatever a library imports from what, a resolution comes to its end in one way only, with
the bindings that are computed, and expands the declarations of no graph twice, those of the
graph that is resolved included.** -/
theorem resolution_ends (library : Library) :
    (∀ graph, ∃ order, order.Nodup ∧ ∀ visible order',
      Resolves library graph visible order' ↔
        visible = resolve library graph ∧ order' = order) ∧
    ∀ graph declared, ∃ order, order.Nodup ∧ graph ∈ order ∧ ∀ visible order',
      ResolvesDeclared library graph declared visible order' ↔
        visible = resolveDeclared library graph declared ∧ order' = order :=
  ⟨resolves_iff library, resolvesDeclared_iff library⟩

end EventGraph.Variable
