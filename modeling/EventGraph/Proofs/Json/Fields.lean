import EventGraph.Json.Basic
import Mathlib.Data.String.Basic

/-!
# Fields of objects

Fields are written under their keys: of two writes under one key the second counts, writes under
different keys may change places, and writing what is there already changes nothing, as long as the
keys ascend. They do in a sound value, at every depth, and its floats are finite.
-/

namespace EventGraph.Json

/-- A value as it can be told from its text: the keys of an object ascend, so that none stands
there twice, and a float is finite. -/
inductive Sound : Json → Prop
  | null : Sound .null
  | bool (b : Bool) : Sound (.bool b)
  | int (n : Int) : Sound (.int n)
  | float {x : Float} : x.isFinite = true → Sound (.float x)
  | string (s : String) : Sound (.string s)
  | array {items : List Json} : (∀ item ∈ items, Sound item) → Sound (.array items)
  | object {fields : Fields} :
      Ascending fields → (∀ entry ∈ fields, Sound entry.2) → Sound (.object fields)

variable {key other : String} {value : Json} {fields : Fields}

/-! ### Writing twice -/

theorem insertField_insertField (key : String) (v w : Json) (fields : Fields) :
    insertField key w (insertField key v fields) = insertField key w fields := by
  induction fields with
  | nil => simp [insertField]
  | cons entry rest ih =>
    obtain ⟨k, u⟩ := entry
    by_cases hk : k = key
    · simp [insertField, hk]
    · by_cases hlt : key < k
      · simp [insertField, hk, hlt]
      · simp [insertField, hk, hlt, ih]

theorem insertField_comm (h : key ≠ other) (v w : Json) (fields : Fields) :
    insertField other w (insertField key v fields) =
      insertField key v (insertField other w fields) := by
  wlog hlt : key < other generalizing key other v w
  · have hgt : other < key := lt_of_le_of_ne (not_lt.mp hlt) (Ne.symm h)
    exact (this (Ne.symm h) w v hgt).symm
  have hnot : ¬ other < key := lt_asymm hlt
  induction fields with
  | nil => simp [insertField, h, Ne.symm h, hlt, hnot]
  | cons entry rest ih =>
    obtain ⟨k, u⟩ := entry
    by_cases hk : k = key
    · subst hk
      simp [insertField, h, hnot]
    · by_cases hbefore : key < k
      · -- The lesser key comes first, whatever the greater one does behind it.
        have hfirst : insertField other w ((key, v) :: (k, u) :: rest) =
            (key, v) :: insertField other w ((k, u) :: rest) := by
          rw [insertField, if_neg h, if_neg hnot]
        rw [insertField, if_neg hk, if_pos hbefore, hfirst]
        by_cases hother : k = other
        · simp [insertField, hother, Ne.symm h, hlt]
        · by_cases hbetween : other < k
          · simp [insertField, hother, hbetween, Ne.symm h, hlt]
          · simp [insertField, hother, hbetween, hk, hbefore]
      · have hbehind : k < key := lt_of_le_of_ne (not_lt.mp hbefore) hk
        have hbehind' : k < other := lt_trans hbehind hlt
        have hk' : k ≠ other := ne_of_lt hbehind'
        have hbefore' : ¬ other < k := lt_asymm hbehind'
        simp [insertField, hk, hbefore, hk', hbefore', ih]

/-! ### Ascending keys -/

theorem ascending_cons {entry : String × Json} {rest : Fields} :
    Ascending (entry :: rest) ↔ (∀ e ∈ rest, entry.1 < e.1) ∧ Ascending rest := by
  rw [Ascending, List.map_cons, List.pairwise_cons, List.forall_mem_map]
  rfl

theorem mem_of_field? (h : field? key fields = some value) : (key, value) ∈ fields := by
  induction fields with
  | nil => cases h
  | cons entry rest ih =>
    obtain ⟨k, u⟩ := entry
    rw [field?] at h
    split at h
    · rename_i hk
      obtain rfl := Option.some.inj h
      exact hk ▸ List.mem_cons_self
    · exact List.mem_cons_of_mem _ (ih h)

/-- To write what is there already changes nothing. -/
theorem insertField_eq_self (h : Ascending fields) (hfield : field? key fields = some value) :
    insertField key value fields = fields := by
  induction fields with
  | nil => cases hfield
  | cons entry rest ih =>
    obtain ⟨k, u⟩ := entry
    obtain ⟨hfirst, hrest⟩ := ascending_cons.mp h
    rw [field?] at hfield
    rw [insertField]
    split at hfield
    · rename_i hk
      rw [if_pos hk, ← hk, Option.some.inj hfield]
    · rename_i hk
      have hlt : k < key := hfirst _ (mem_of_field? hfield)
      rw [if_neg hk, if_neg (lt_asymm hlt), ih hrest hfield]

theorem eq_or_mem_of_mem_insertField {entry : String × Json}
    (h : entry ∈ insertField key value fields) : entry = (key, value) ∨ entry ∈ fields := by
  induction fields with
  | nil => exact .inl (List.mem_singleton.mp h)
  | cons first rest ih =>
    rw [insertField] at h
    split at h
    · exact (List.mem_cons.mp h).imp_right (List.mem_cons_of_mem _)
    · split at h
      · exact List.mem_cons.mp h
      · rcases List.mem_cons.mp h with rfl | hrest
        · exact .inr List.mem_cons_self
        · exact (ih hrest).imp_right (List.mem_cons_of_mem _)

theorem ascending_insertField (h : Ascending fields) (key : String) (value : Json) :
    Ascending (insertField key value fields) := by
  induction fields with
  | nil => exact List.pairwise_singleton _ _
  | cons entry rest ih =>
    obtain ⟨k, u⟩ := entry
    obtain ⟨hfirst, hrest⟩ := ascending_cons.mp h
    rw [insertField]
    split
    · rename_i hk
      exact ascending_cons.mpr ⟨fun e he => hk ▸ hfirst e he, hrest⟩
    · rename_i hk
      split
      · rename_i hlt
        refine ascending_cons.mpr ⟨List.forall_mem_cons.mpr ⟨hlt, fun e he => ?_⟩, h⟩
        exact lt_trans hlt (hfirst e he)
      · rename_i hlt
        refine ascending_cons.mpr ⟨fun e he => ?_, ih hrest⟩
        rcases eq_or_mem_of_mem_insertField he with rfl | he
        · exact lt_of_le_of_ne (not_lt.mp hlt) hk
        · exact hfirst e he

/-! ### Sound values -/

theorem sound_object_iff : Sound (.object fields) ↔
    Ascending fields ∧ ∀ entry ∈ fields, Sound entry.2 := by
  constructor
  · intro h
    cases h with
    | object hascending hentries => exact ⟨hascending, hentries⟩
  · rintro ⟨hascending, hentries⟩
    exact .object hascending hentries

theorem Sound.field? (h : Sound (.object fields)) (hfield : Json.field? key fields = some value) :
    Sound value :=
  (sound_object_iff.mp h).2 _ (mem_of_field? hfield)

theorem Sound.insertField (h : Sound (.object fields)) (hvalue : Sound value) (key : String) :
    Sound (.object (Json.insertField key value fields)) := by
  obtain ⟨hascending, hentries⟩ := sound_object_iff.mp h
  refine .object (ascending_insertField hascending key value) fun entry hentry => ?_
  rcases eq_or_mem_of_mem_insertField hentry with rfl | hentry
  · exact hvalue
  · exact hentries entry hentry

end EventGraph.Json
