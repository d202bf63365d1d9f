import EventGraph.Proofs.Variable.Expansion
import Mathlib.Logic.Relation

/-!
# Where values come from

In every library, with circles or without, what is resolved binds each declared key once. A key
that is declared locally has the value of its last local declaration. Any other has the value of
a declaration at which a chain of imports of that key ends.
-/

namespace EventGraph.Variable

/-- The last declaration of a key among some. -/
def last? (key : String) (vs : List Variable) : Option Variable :=
  (vs.filter (·.key == key)).getLast?

/-- The declaration that decides on a key: the last local one, else the last import. -/
def deciding? (key : String) (declared : List Variable) : Option Variable :=
  (last? key (locals declared)).or (last? key (imports declared))

/-- An import takes its key from a graph of the library, where the other declaration decides. -/
def Follows (library : Library) (v w : Variable) : Prop :=
  v.isImported = true ∧ ∃ declared, library.get? v.importFrom = some declared ∧
    deciding? v.key declared = some w

/-- A value is that of a declaration at which a chain of imports ends. -/
def Origin (library : Library) (v : Variable) (value : String) : Prop :=
  ∃ w, Relation.ReflTransGen (Follows library) v w ∧ w.value = value

variable {library : Library} {active order : List String} {graph key value : String}
  {v w : Variable} {vs rest declared : List Variable} {visible visible' provided : Bindings}
  {done done' : Expanded}

/-! ### Deciding declarations -/

theorem last?_cons (key : String) (v : Variable) (rest : List Variable) :
    last? key (v :: rest) = (last? key rest).or (if v.key = key then some v else none) := by
  unfold last?
  by_cases h : v.key = key
  · rw [List.filter_cons_of_pos (by simpa using h), List.getLast?_cons, if_pos h]
    cases (rest.filter (·.key == key)).getLast? <;> rfl
  · rw [List.filter_cons_of_neg (by simpa using h), if_neg h, Option.or_none]

theorem of_last? (h : last? key vs = some v) : v ∈ vs ∧ v.key = key := by
  obtain ⟨hmem, hkey⟩ := List.mem_filter.mp (List.mem_of_getLast? h)
  exact ⟨hmem, beq_iff_eq.mp hkey⟩

theorem of_deciding? (h : deciding? key declared = some v) : v ∈ declared ∧ v.key = key := by
  obtain hlocal | ⟨-, himport⟩ := Option.or_eq_some_iff.mp h
  · obtain ⟨hmem, hkey⟩ := of_last? hlocal
    exact ⟨(List.mem_filter.mp hmem).1, hkey⟩
  · obtain ⟨hmem, hkey⟩ := of_last? himport
    exact ⟨(List.mem_filter.mp hmem).1, hkey⟩

theorem key_of_path (h : Relation.ReflTransGen (Follows library) v w) : w.key = v.key := by
  induction h with
  | refl => rfl
  | tail _ hfollows ih =>
    obtain ⟨-, _, -, hdeciding⟩ := hfollows
    exact (of_deciding? hdeciding).2.trans ih

/-! ### Keys -/

/-- Binding declarations puts some value under the key of each. -/
inductive Fills : List Variable → Bindings → Bindings → Prop
  | nil {visible : Bindings} : Fills [] visible visible
  | cons {v : Variable} {rest : List Variable} {visible visible' : Bindings} (value : String) :
      Fills rest (visible.put v.key value) visible' → Fills (v :: rest) visible visible'

theorem Binds.fills (h : Binds library active vs visible done visible' done' order) :
    Fills vs visible visible' := by
  induction h with
  | nil => exact .nil
  | cyclic _ _ ih | cached _ _ _ ih | unknown _ _ _ _ ih | expanded _ _ _ _ _ _ ih =>
    exact .cons _ ih

theorem fills_bindLocals (vs : List Variable) (visible : Bindings) :
    Fills vs visible (bindLocals vs visible) := by
  induction vs generalizing visible with
  | nil => exact .nil
  | cons v rest ih => exact .cons v.value (ih _)

theorem Fills.mem_keys (h : Fills vs visible visible') :
    key ∈ visible'.keys ↔ key ∈ visible.keys ∨ ∃ v ∈ vs, v.key = key := by
  induction h with
  | nil => simp
  | cons value _ ih => simp [ih, Table.mem_keys_put, eq_comm, or_assoc, or_left_comm]

theorem Fills.nodup_keys (h : Fills vs visible visible') (hvisible : visible.keys.Nodup) :
    visible'.keys.Nodup := by
  induction h with
  | nil => exact hvisible
  | cons value _ ih => exact ih (Table.nodup_keys_put hvisible _ value)

/-! ### Values -/

theorem get?_bindLocals (vs : List Variable) (visible : Bindings) (key : String) :
    (bindLocals vs visible).get? key = ((last? key vs).map (·.value)).or (visible.get? key) := by
  induction vs generalizing visible with
  | nil => rfl
  | cons v rest ih =>
    have hcons : bindLocals (v :: rest) visible = bindLocals rest (visible.put v.key v.value) := rfl
    rw [hcons, ih, Table.get?_put, last?_cons]
    by_cases h : v.key = key <;> cases last? key rest <;> simp [h]

/-- Imports that are bound to values with an origin. -/
def BoundToOrigins (library : Library) (vs : List Variable) (visible visible' : Bindings) : Prop :=
  ∀ key, match last? key vs with
    | some v => ∃ value, visible'.get? key = some value ∧ Origin library v value
    | none => visible'.get? key = visible.get? key

theorem BoundToOrigins.cons (hvalue : Origin library v value)
    (h : BoundToOrigins library rest (visible.put v.key value) visible') :
    BoundToOrigins library (v :: rest) visible visible' := by
  intro key
  have hrest := h key
  rw [last?_cons]
  cases hlast : last? key rest with
  | some w =>
    rw [hlast] at hrest
    exact hrest
  | none =>
    rw [hlast] at hrest
    simp only [Table.get?_put] at hrest
    by_cases hkey : v.key = key
    · simp only [hkey, if_true] at hrest ⊢
      exact ⟨value, hrest, hvalue⟩
    · simp only [hkey, if_false] at hrest ⊢
      exact hrest

/-- Bindings whose values come from the declarations of a graph. -/
def Sourced (library : Library) (declared : List Variable) (visible : Bindings) : Prop :=
  ∀ key value, visible.get? key = some value →
    ∃ v, deciding? key declared = some v ∧ Origin library v value

theorem BoundToOrigins.sourced (h : BoundToOrigins library (imports declared) [] visible) :
    Sourced library declared (bindLocals (locals declared) visible) := by
  intro key value hvalue
  rw [get?_bindLocals] at hvalue
  unfold deciding?
  cases hlocal : last? key (locals declared) with
  | some v =>
    rw [hlocal] at hvalue
    obtain rfl := Option.some.inj hvalue
    exact ⟨v, rfl, v, .refl, rfl⟩
  | none =>
    rw [hlocal] at hvalue
    have himport := h key
    cases hlast : last? key (imports declared) with
    | some v =>
      rw [hlast] at himport
      obtain ⟨value', hvalue', horigin⟩ := himport
      obtain rfl := Option.some.inj (hvalue'.symm.trans hvalue)
      exact ⟨v, rfl, horigin⟩
    | none =>
      rw [hlast] at himport
      cases himport.symm.trans hvalue

/-- An import takes over the origin of what it is given, or is the origin itself. -/
theorem Sourced.origin (h : Sourced library declared provided)
    (hknown : library.get? v.importFrom = some declared) (himported : v.isImported = true) :
    Origin library v (v.valueFrom provided) := by
  unfold valueFrom
  cases hvalue : provided.get? v.key with
  | none => exact ⟨v, .refl, rfl⟩
  | some value =>
    obtain ⟨w, hdeciding, u, hpath, hu⟩ := h v.key value hvalue
    exact ⟨u, .head ⟨himported, declared, hknown, hdeciding⟩ hpath, hu⟩

/-- Every graph that is done provides values that come from its declarations. -/
def SourcedDone (library : Library) (done : Expanded) : Prop :=
  ∀ graph visible, done.get? graph = some visible →
    ∃ declared, library.get? graph = some declared ∧ Sourced library declared visible

theorem Binds.boundToOrigins (h : Binds library active vs visible done visible' done' order)
    (himported : ∀ v ∈ vs, v.isImported = true) (hdone : SourcedDone library done) :
    BoundToOrigins library vs visible visible' ∧ SourcedDone library done' := by
  induction h with
  | nil => exact ⟨fun _ => rfl, hdone⟩
  | cyclic _ _ ih | unknown _ _ _ _ ih =>
    rw [List.forall_mem_cons] at himported
    obtain ⟨hrest, hdone'⟩ := ih himported.2 hdone
    exact ⟨.cons ⟨_, .refl, rfl⟩ hrest, hdone'⟩
  | cached _ hfound _ ih =>
    rw [List.forall_mem_cons] at himported
    obtain ⟨hrest, hdone'⟩ := ih himported.2 hdone
    obtain ⟨declared, hknown, hsourced⟩ := hdone _ _ hfound
    exact ⟨.cons (hsourced.origin hknown himported.1) hrest, hdone'⟩
  | expanded _ _ hknown _ _ ih ihrest =>
    rw [List.forall_mem_cons] at himported
    obtain ⟨hbelow, hdone'⟩ := ih (fun w hw => (List.mem_filter.mp hw).2) hdone
    obtain ⟨hrest, hdone''⟩ :=
      ihrest himported.2 (Table.forall_get?_cons ⟨_, hknown, hbelow.sourced⟩ hdone')
    exact ⟨.cons (hbelow.sourced.origin hknown himported.1) hrest, hdone''⟩

theorem declared_iff (declared : List Variable) (key : String) :
    (∃ v ∈ declared, v.key = key) ↔
      (∃ v ∈ imports declared, v.key = key) ∨ ∃ v ∈ locals declared, v.key = key := by
  constructor
  · rintro ⟨v, hv, hkey⟩
    by_cases himported : v.isImported
    · exact .inl ⟨v, List.mem_filter.mpr ⟨hv, himported⟩, hkey⟩
    · exact .inr ⟨v, List.mem_filter.mpr ⟨hv, by simpa using himported⟩, hkey⟩
  · rintro (⟨v, hv, hkey⟩ | ⟨v, hv, hkey⟩) <;> exact ⟨v, List.mem_of_mem_filter hv, hkey⟩

/-- **Declarations are resolved to bindings of their keys, each once. A key that is declared
locally has the value of its last local declaration, whatever is in the library. Any other has
the value of a declaration of it at which a chain of imports ends that begins with its last
import.** -/
theorem resolveDeclared_justified (library : Library) (graph : String)
    (declared : List Variable) :
    (resolveDeclared library graph declared).keys.Nodup ∧
    (∀ key, key ∈ (resolveDeclared library graph declared).keys ↔
      ∃ v ∈ declared, v.key = key) ∧
    (∀ key v, last? key (locals declared) = some v →
      (resolveDeclared library graph declared).get? key = some v.value) ∧
    ∀ key v, last? key (locals declared) = none → last? key (imports declared) = some v →
      ∃ w, w.key = key ∧ Relation.ReflTransGen (Follows library) v w ∧
        (resolveDeclared library graph declared).get? key = some w.value := by
  obtain ⟨order, hresolves⟩ := exists_resolvesDeclared library graph declared
  generalize resolveDeclared library graph declared = visible at hresolves
  obtain @⟨imported, done, order, hbinds⟩ := hresolves
  have hlocals := fills_bindLocals (locals declared) imported
  have himported : ∀ v ∈ imports declared, v.isImported = true :=
    fun v hv => (List.mem_filter.mp hv).2
  have hnone : SourcedDone library [] := fun _ _ hfound => nomatch hfound
  obtain ⟨hbound, -⟩ := hbinds.boundToOrigins himported hnone
  refine ⟨hlocals.nodup_keys (hbinds.fills.nodup_keys List.nodup_nil), fun key => ?_,
    fun key v hlast => ?_, fun key v hlocal hlast => ?_⟩
  · rw [declared_iff declared, hlocals.mem_keys, hbinds.fills.mem_keys]
    simp [Table.keys]
  · rw [get?_bindLocals, hlast]
    rfl
  · have hkey := hbound key
    rw [hlast] at hkey
    obtain ⟨value, hvalue, w, hpath, rfl⟩ := hkey
    refine ⟨w, (key_of_path hpath).trans (of_last? hlast).2, hpath, ?_⟩
    rw [get?_bindLocals, hlocal]
    exact hvalue

/-- One of two graphs that import a key from each other. -/
def facing (other value : String) : List Variable :=
  [{ key := "k", value, importFrom := other }, { key := "x", value }]

def circle : Library := [("a", facing "b" "of a"), ("b", facing "a" "of b")]

/-- The key has the value of the other graph; the import that leads back from there is not followed,
and what it declares counts itself. -/
theorem resolveDeclared_circle :
    (resolveDeclared circle "a" (facing "b" "of a")).keys.Nodup ∧
    (resolveDeclared circle "a" (facing "b" "of a")).get? "x" = some "of a" ∧
    (resolveDeclared circle "a" (facing "b" "of a")).get? "k" = some "of b" ∧
    ∃ w, w.key = "k" ∧ w.value = "of b" ∧
      Relation.ReflTransGen (Follows circle)
        { key := "k", value := "of a", importFrom := "b" } w := by
  obtain ⟨hnodup, -, hlocal, himport⟩ :=
    resolveDeclared_justified circle "a" (facing "b" "of a")
  obtain ⟨w, hkey, hpath, hvalue⟩ := himport "k"
    { key := "k", value := "of a", importFrom := "b" } (by decide +kernel) (by decide +kernel)
  have hcomputed : (resolveDeclared circle "a" (facing "b" "of a")).get? "k" = some "of b" := by
    decide +kernel
  have hx := hlocal "x" { key := "x", value := "of a" } (by decide +kernel)
  refine ⟨hnodup, hx, hcomputed, w, hkey, ?_, hpath⟩
  exact Option.some.inj (hvalue.symm.trans hcomputed)

end EventGraph.Variable
