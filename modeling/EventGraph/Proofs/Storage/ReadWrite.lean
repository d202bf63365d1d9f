import EventGraph.Proofs.Text.Pieces
import EventGraph.Storage

/-!
# Reading what was written

What is read at one path after a value has been written at another depends on how the keys of the
paths begin: below the path written to stands the value, above it the object that the value was
written into, and aside from it what stood there before.
-/

namespace EventGraph.Storage

/-- A path is its keys, at least one, with a dot between any two. -/
structure Spells (keys : List String) (path : String) : Prop where
  ne_nil : keys ≠ []
  no_dot : ∀ key ∈ keys, '.' ∉ key.toList
  eq : ".".intercalate keys = path

/-- Keys lead from a value to one inside it. Only objects are entered. -/
inductive Reaches : List String → Json → Json → Prop
  | here {v : Json} : Reaches [] v v
  | field {key : String} {keys : List String} {fields : Json.Fields} {v w : Json} :
      Json.field? key fields = some v → Reaches keys v w →
      Reaches (key :: keys) (.object fields) w

/-- A value is written at keys inside an object, which leads from its fields before to those
after. An object under a key is written into; whatever else is there, or nothing, gives way to an
object that was empty. -/
inductive Writes (value : Json) : List String → Json.Fields → Json.Fields → Prop
  | last {key : String} {fields : Json.Fields} :
      Writes value [key] fields (Json.insertField key value fields)
  | into {key : String} {keys : List String} {fields inner inner' : Json.Fields} :
      Json.field? key fields = some (.object inner) → Writes value keys inner inner' →
      Writes value (key :: keys) fields (Json.insertField key (.object inner') fields)
  | replace {key : String} {keys : List String} {fields inner' : Json.Fields} :
      (∀ inner, Json.field? key fields ≠ some (.object inner)) → Writes value keys [] inner' →
      Writes value (key :: keys) fields (Json.insertField key (.object inner') fields)

/-- The fields of what is found if that is an object, and no fields otherwise. -/
def fieldsOf : Option Json → Json.Fields
  | some (.object fields) => fields
  | _ => []

variable {keys ps qs : List String} {path : String} {value v w : Json}
  {fields fields' : Json.Fields}

/-! ### Paths -/

/-- Every path is spelled by its segments and by no other keys. -/
theorem spells_iff : Spells keys path ↔ segments path = keys := by
  constructor
  · rintro ⟨hne, hdot, rfl⟩
    have hmap : keys.map String.toList ≠ [] := by simpa using hne
    have hpieces : ∀ piece ∈ keys.map String.toList, '.' ∉ piece := by simpa using hdot
    rw [segments, String.toList_intercalate]
    have hsplit := Text.splitWhere_intercalate hmap hpieces
    simp [hsplit]
  · rintro rfl
    refine ⟨segments_ne_nil path, ?_, ?_⟩
    · intro key hkey
      obtain ⟨piece, hpiece, rfl⟩ := List.mem_map.mp hkey
      rw [String.toList_ofList]
      exact Text.not_mem_of_mem_splitWhere hpiece
    · apply String.toList_inj.mp
      have hjoin := Text.intercalate_splitWhere '.' path.toList
      simpa [segments, Function.comp_def] using hjoin

/-! ### Reading -/

theorem reaches_iff : Reaches keys v w ↔ follow? keys v = some w := by
  constructor
  · intro h
    induction h with
    | here => rfl
    | field hfield _ ih => rw [follow?, hfield, Option.bind_some, ih]
  · intro h
    induction keys generalizing v with
    | nil => exact Option.some.inj h ▸ .here
    | cons key keys ih =>
      cases v with
      | object fields =>
        obtain ⟨u, hu, hfollow⟩ := Option.bind_eq_some_iff.mp h
        exact .field hu (ih hfollow)
      | _ => cases h

theorem follow?_append (ps qs : List String) (v : Json) :
    follow? (ps ++ qs) v = (follow? ps v).bind (follow? qs) := by
  induction ps generalizing v with
  | nil => rfl
  | cons key ps ih =>
    cases v with
    | object fields =>
      rw [List.cons_append, follow?, follow?, Option.bind_assoc]
      congr 1
      funext u
      exact ih u
    | _ => rfl

/-- For reading on, what is no object is as good as an object without fields. -/
theorem bind_follow? (h : keys ≠ []) (found : Option Json) :
    found.bind (follow? keys) = follow? keys (.object (fieldsOf found)) := by
  obtain ⟨key, keys, rfl⟩ := List.exists_cons_of_ne_nil h
  cases found with
  | none => rfl
  | some v => cases v <;> rfl

theorem fieldsOf_follow? (keys : List String) (found : Option Json) :
    fieldsOf (follow? keys (.object (fieldsOf found))) = fieldsOf (found.bind (follow? keys)) := by
  by_cases hkeys : keys = []
  · subst hkeys
    cases found with
    | none => rfl
    | some v => cases v <;> rfl
  · rw [bind_follow? hkeys]

theorem fieldsOf_eq_nil {found : Option Json} (h : ∀ fields, found ≠ some (.object fields)) :
    fieldsOf found = [] := by
  unfold fieldsOf
  split
  · rename_i fields
    exact absurd rfl (h fields)
  · rfl

/-! ### Writing -/

theorem writeAt_cons (key : String) (h : keys ≠ []) (value : Json) (fields : Json.Fields) :
    writeAt value (key :: keys) fields =
      Json.insertField key (.object (writeAt value keys (fieldsOf (Json.field? key fields))))
        fields := by
  obtain ⟨next, keys, rfl⟩ := List.exists_cons_of_ne_nil h
  have hinner : ((Json.field? key fields).bind Json.asObject?).getD [] =
      fieldsOf (Json.field? key fields) := by
    cases Json.field? key fields with
    | none => rfl
    | some v => cases v <;> rfl
  rw [writeAt, hinner]
  simp

theorem writes_iff : Writes value keys fields fields' ↔
    keys ≠ [] ∧ writeAt value keys fields = fields' := by
  constructor
  · intro h
    induction h with
    | last => exact ⟨List.cons_ne_nil _ _, rfl⟩
    | into hfield _ ih =>
      obtain ⟨hne, rfl⟩ := ih
      exact ⟨List.cons_ne_nil _ _, by rw [writeAt_cons _ hne, hfield, fieldsOf]⟩
    | @replace key keys fields inner' hfield _ ih =>
      obtain ⟨hne, rfl⟩ := ih
      exact ⟨List.cons_ne_nil _ _, by rw [writeAt_cons _ hne, fieldsOf_eq_nil hfield]⟩
  · rintro ⟨hne, rfl⟩
    induction keys generalizing fields with
    | nil => exact absurd rfl hne
    | cons key keys ih =>
      by_cases hkeys : keys = []
      · subst hkeys
        exact .last
      rw [writeAt_cons _ hkeys]
      by_cases hobject : ∃ inner, Json.field? key fields = some (.object inner)
      · obtain ⟨inner, hinner⟩ := hobject
        rw [hinner]
        exact .into hinner (ih hkeys)
      · have hfield : ∀ inner, Json.field? key fields ≠ some (.object inner) := by
          simpa using hobject
        rw [fieldsOf_eq_nil hfield]
        exact .replace hfield (ih hkeys)

theorem field?_writeAt_of_ne {key other : String} (h : key ≠ other) (value : Json)
    (keys : List String) (fields : Json.Fields) :
    Json.field? other (writeAt value (key :: keys) fields) = Json.field? other fields := by
  by_cases hkeys : keys = []
  · subst hkeys
    exact Json.field?_insertField_of_ne h value fields
  · rw [writeAt_cons key hkeys]
    exact Json.field?_insertField_of_ne h _ fields

/-- Above the place of a write stands the object that was written into. -/
theorem follow?_writeAt_append {rest : List String} (hrest : rest ≠ []) (value : Json)
    (keys : List String) (fields : Json.Fields) :
    follow? keys (.object (writeAt value (keys ++ rest) fields)) =
      some (.object (writeAt value rest (fieldsOf (follow? keys (.object fields))))) := by
  induction keys generalizing fields with
  | nil => rfl
  | cons key keys ih =>
    have hne : keys ++ rest ≠ [] := List.append_ne_nil_of_right_ne_nil keys hrest
    rw [List.cons_append, writeAt_cons key hne, follow?, Json.field?_insertField_self,
      Option.bind_some, ih, follow?, fieldsOf_follow?]

/-- Aside from the place of a write nothing changes. -/
theorem follow?_writeAt_of_not_prefix (hp : ¬ ps <+: qs) (hq : ¬ qs <+: ps) (value : Json)
    (fields : Json.Fields) :
    follow? qs (.object (writeAt value ps fields)) = follow? qs (.object fields) := by
  induction ps generalizing qs fields with
  | nil => exact absurd List.nil_prefix hp
  | cons key keys ih =>
    cases qs with
    | nil => exact absurd List.nil_prefix hq
    | cons other others =>
      rw [follow?, follow?]
      by_cases hkey : key = other
      · subst hkey
        rw [List.cons_prefix_cons, not_and] at hp hq
        have hkeys : keys ≠ [] := by
          rintro rfl
          exact hp rfl List.nil_prefix
        have hothers : others ≠ [] := by
          rintro rfl
          exact hq rfl List.nil_prefix
        rw [writeAt_cons key hkeys, Json.field?_insertField_self, Option.bind_some,
          ih (hp rfl) (hq rfl), bind_follow? hothers]
      · rw [field?_writeAt_of_ne hkey]

/-! ### Reading after writing -/

theorem spells_segments (path : String) : Spells (segments path) path := spells_iff.mpr rfl

/-- **After a value has been written at a path, a path below it leads into the value, a path above
it to the object that the value was written into, and every other path to what it led to
before.** -/
theorem get?_set (s : Storage) (value : Json) (p q : String) :
    let ps := segments p
    let qs := segments q
    Spells ps p ∧ Spells qs q ∧
    (∀ rest, qs = ps ++ rest → ∀ w, (s.set p value).get? q = some w ↔ Reaches rest value w) ∧
    (∀ rest, rest ≠ [] → ps = qs ++ rest → ∃ fields,
      (s.set p value).get? q = some (.object fields) ∧
        Writes value rest (fieldsOf (s.get? q)) fields) ∧
    (¬ ps <+: qs → ¬ qs <+: ps → (s.set p value).get? q = s.get? q) := by
  intro ps qs
  have hread (s : Storage) : s.get? q = follow? qs (.object s.fields) := rfl
  have hwrite : (s.set p value).fields = writeAt value ps s.fields := rfl
  rw [hread, hread, hwrite]
  refine ⟨spells_segments p, spells_segments q, ?below, ?above, ?aside⟩
  case below =>
    intro rest hrest w
    rw [hrest, follow?_append, follow?_writeAt_self value (segments_ne_nil p), Option.bind_some,
      reaches_iff]
  case above =>
    intro rest hrest hps
    rw [hps]
    exact ⟨_, follow?_writeAt_append hrest value qs s.fields, writes_iff.mpr ⟨hrest, rfl⟩⟩
  case aside =>
    intro hbelow habove
    exact follow?_writeAt_of_not_prefix hbelow habove value s.fields

/-- A name gives way to an object with an object under the empty key. -/
example : (Storage.set ⟨[("name", .string "Aria")]⟩ "name..first" (.string "A")).get? "name" =
    some (.object [("", .object [("first", .string "A")])]) := by cbv

end EventGraph.Storage
