/-!
# Tables

A table holds pairs of a key and a value in the order in which the keys first came.
-/

namespace EventGraph

abbrev Table (β : Type) := List (String × β)

namespace Table

variable {β : Type}

def keys (t : Table β) : List String := t.map (·.1)

def get? : Table β → String → Option β
  | [], _ => none
  | (k, v) :: rest, key => if k = key then some v else get? rest key

/-- Stores a value. A key that is there already keeps its place. -/
def put (key : String) (value : β) : Table β → Table β
  | [] => [(key, value)]
  | (k, v) :: rest => if k = key then (k, value) :: rest else (k, v) :: put key value rest

def remove (t : Table β) (key : String) : Table β := t.filter (·.1 != key)

@[simp] theorem keys_cons (entry : String × β) (rest : Table β) :
    keys (entry :: rest) = entry.1 :: rest.keys := rfl

@[simp] theorem get?_nil (key : String) : get? ([] : Table β) key = none := rfl

theorem get?_cons (entry : String × β) (rest : Table β) (key : String) :
    get? (entry :: rest) key = if entry.1 = key then some entry.2 else get? rest key := rfl

/-- What holds of a first entry and of all that is found behind it holds of all that is found. -/
theorem forall_get?_cons {P : String → β → Prop} {key : String} {value : β} {t : Table β}
    (hvalue : P key value) (h : ∀ other found, t.get? other = some found → P other found) :
    ∀ other found, get? ((key, value) :: t) other = some found → P other found := by
  intro other found hfound
  rw [get?_cons] at hfound
  split at hfound
  · rename_i hkey
    cases hfound
    exact hkey ▸ hvalue
  · exact h other found hfound

/-- A stored value is found under its key and every other key finds what it found before. -/
theorem get?_put (t : Table β) (key other : String) (value : β) :
    (t.put key value).get? other = if key = other then some value else t.get? other := by
  induction t with
  | nil => simp [put, get?_cons]
  | cons entry rest ih =>
    by_cases h : entry.1 = key
    · subst h; by_cases hk : entry.1 = other <;> simp [put, get?_cons, hk]
    · simp only [put, if_neg h, get?_cons, ih]
      by_cases hk : key = other
      · subst hk; simp [h]
      · simp [hk]

theorem get?_eq_none_iff {t : Table β} {key : String} : t.get? key = none ↔ key ∉ t.keys := by
  induction t with
  | nil => simp [keys]
  | cons entry rest ih =>
    rw [get?_cons, keys_cons, List.mem_cons, not_or, ← ih]
    split
    · rename_i h
      simp [h]
    · rename_i h
      exact ⟨fun hrest => ⟨Ne.symm h, hrest⟩, And.right⟩

theorem mem_of_get? {t : Table β} {key : String} {value : β} (h : t.get? key = some value) :
    (key, value) ∈ t := by
  induction t with
  | nil => cases h
  | cons entry rest ih =>
    rw [get?_cons] at h
    split at h
    · rename_i hkey
      obtain rfl := Option.some.inj h
      exact hkey ▸ List.mem_cons_self
    · exact List.mem_cons_of_mem _ (ih h)

theorem eq_or_mem_of_mem_put {t : Table β} {key : String} {value : β} {entry : String × β}
    (h : entry ∈ t.put key value) : entry = (key, value) ∨ entry ∈ t := by
  induction t with
  | nil => exact .inl (List.mem_singleton.mp h)
  | cons first rest ih =>
    rw [put] at h
    split at h
    · rename_i hkey
      obtain rfl | hrest := List.mem_cons.mp h
      · exact .inl (by rw [hkey])
      · exact .inr (List.mem_cons_of_mem _ hrest)
    · obtain rfl | hrest := List.mem_cons.mp h
      · exact .inr List.mem_cons_self
      · exact (ih hrest).imp_right (List.mem_cons_of_mem _)

theorem isEmpty_put (t : Table β) (key : String) (value : β) :
    (t.put key value).isEmpty = false := by
  cases t with
  | nil => rfl
  | cons entry rest =>
    rw [put]
    split <;> rfl

theorem mem_keys_put {t : Table β} {key other : String} {value : β} :
    other ∈ (t.put key value).keys ↔ other = key ∨ other ∈ t.keys := by
  induction t with
  | nil => simp [put, keys]
  | cons entry rest ih =>
    rw [put]
    split
    · rename_i h
      simp [h]
    · rw [keys_cons, keys_cons, List.mem_cons, List.mem_cons, ih, or_left_comm]

theorem nodup_keys_put {t : Table β} (h : t.keys.Nodup) (key : String) (value : β) :
    (t.put key value).keys.Nodup := by
  induction t with
  | nil => simp [put, keys]
  | cons entry rest ih =>
    rw [keys_cons, List.nodup_cons] at h
    rw [put]
    split
    · rename_i hkey
      exact List.nodup_cons.mpr (hkey ▸ h)
    · rename_i hkey
      refine List.nodup_cons.mpr ⟨fun hmem => ?_, ih h.2⟩
      exact (mem_keys_put.mp hmem).elim hkey h.1

/-- Storing under a new key and removing it again changes nothing. -/
theorem remove_put_of_notMem {t : Table β} {key : String} (h : key ∉ t.keys) (value : β) :
    (t.put key value).remove key = t := by
  induction t with
  | nil => simp [put, remove]
  | cons entry rest ih =>
    simp only [keys, List.map_cons, List.mem_cons, not_or] at h
    obtain ⟨hne, hrest⟩ := h
    rw [put, if_neg (Ne.symm hne), remove, List.filter_cons_of_pos (by simpa using Ne.symm hne)]
    exact congrArg (entry :: ·) (ih hrest)

/-- What is stored under a key is of no account where the key is removed. -/
theorem remove_put (t : Table β) (key : String) (value : β) :
    (t.put key value).remove key = t.remove key := by
  induction t with
  | nil => simp [put, remove]
  | cons entry rest ih =>
    rw [put]
    split
    · rename_i hkey
      simp [remove, hkey]
    · rename_i hkey
      simp only [remove, List.filter_cons] at ih ⊢
      rw [ih]

theorem remove_remove (t : Table β) (key : String) : (t.remove key).remove key = t.remove key := by
  simp only [remove, List.filter_filter, Bool.and_self]

theorem get?_remove (t : Table β) (key other : String) :
    (t.remove key).get? other = if key = other then none else t.get? other := by
  induction t with
  | nil => simp [remove]
  | cons entry rest ih =>
    simp only [remove, bne_iff_ne, ne_eq, List.filter_cons] at ih ⊢
    by_cases h : entry.1 = key <;> by_cases hk : key = other <;> simp_all [get?_cons]

end Table

end EventGraph
