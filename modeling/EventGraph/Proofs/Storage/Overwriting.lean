import EventGraph.Proofs.Json.Fields
import EventGraph.Proofs.Storage.ReadWrite

/-!
# Writing more than once

A write makes up for an earlier one at its own path or below, writes at paths of which neither lies
below the other may change places, and to write what is read changes nothing. These are equations
of whole storages: they also hold of the objects that a write makes on its way.
-/

namespace EventGraph

/-- A storage whose fields are those of a sound object. -/
def Storage.Sound (s : Storage) : Prop := (Json.object s.fields).Sound

/-- A sound storage. The empty one is, and scripts keep it so. -/
structure SoundStorage extends Storage where
  sound : toStorage.Sound

instance : Coe SoundStorage Storage := ⟨SoundStorage.toStorage⟩

namespace Storage

open Json (insertField field?)

/-- What a write leaves under the first key: the value, or the object that it is written into. -/
def writeBelow (value : Json) : List String → Option Json → Json
  | [], _ => value
  | key :: keys, found => .object (writeAt value (key :: keys) (fieldsOf found))

variable {keys ps qs : List String} {value : Json} {fields : Json.Fields}

theorem writeBelow_of_ne_nil (h : keys ≠ []) (value : Json) (found : Option Json) :
    writeBelow value keys found = .object (writeAt value keys (fieldsOf found)) := by
  obtain ⟨key, keys, rfl⟩ := List.exists_cons_of_ne_nil h
  rfl

/-- A write changes one field. -/
theorem writeAt_eq_insertField (value : Json) (key : String) (keys : List String)
    (fields : Json.Fields) : writeAt value (key :: keys) fields =
      insertField key (writeBelow value keys (field? key fields)) fields := by
  cases keys with
  | nil => rfl
  | cons next keys => exact writeAt_cons key (List.cons_ne_nil next keys) value fields

theorem segments_append (p r : String) :
    segments (p ++ "." ++ r) = segments p ++ segments r := by
  have htext : (p ++ "." ++ r).toList = p.toList ++ '.' :: r.toList := by simp
  rw [segments, htext, Text.splitWhere_append (by decide), List.map_append]
  rfl

/-! ### A write after another -/

theorem writeAt_writeAt_append (h : keys ≠ []) (rest : List String) (v w : Json)
    (fields : Json.Fields) :
    writeAt w keys (writeAt v (keys ++ rest) fields) = writeAt w keys fields := by
  induction keys generalizing fields with
  | nil => exact absurd rfl h
  | cons key keys ih =>
    have hbelow : writeBelow w keys (some (writeBelow v (keys ++ rest) (field? key fields))) =
        writeBelow w keys (field? key fields) := by
      cases keys with
      | nil => rfl
      | cons next keys =>
        show Json.object _ = Json.object _
        rw [List.cons_append, writeBelow, fieldsOf]
        exact congrArg Json.object (ih (List.cons_ne_nil next keys) _)
    rw [List.cons_append, writeAt_eq_insertField v, writeAt_eq_insertField w,
      Json.field?_insertField_self, Json.insertField_insertField, hbelow, writeAt_eq_insertField w]

theorem writeAt_comm (hp : ¬ ps <+: qs) (hq : ¬ qs <+: ps) (v w : Json) (fields : Json.Fields) :
    writeAt w qs (writeAt v ps fields) = writeAt v ps (writeAt w qs fields) := by
  induction ps generalizing qs fields with
  | nil => exact absurd List.nil_prefix hp
  | cons key ps ih =>
    cases qs with
    | nil => exact absurd List.nil_prefix hq
    | cons other qs =>
      by_cases hkey : key = other
      · -- Both writes go into one object, the second into what the first has made of it.
        subst hkey
        rw [List.cons_prefix_cons, not_and] at hp hq
        have hps : ps ≠ [] := by
          rintro rfl
          exact hp rfl List.nil_prefix
        have hqs : qs ≠ [] := by
          rintro rfl
          exact hq rfl List.nil_prefix
        rw [writeAt_cons key hqs, writeAt_cons key hps v fields, writeAt_cons key hps v,
          writeAt_cons key hqs w fields, Json.field?_insertField_self, Json.field?_insertField_self,
          Json.insertField_insertField, Json.insertField_insertField, fieldsOf, fieldsOf,
          ih (hp rfl) (hq rfl)]
      · rw [writeAt_eq_insertField w, field?_writeAt_of_ne hkey, writeAt_eq_insertField v,
          writeAt_eq_insertField v key ps (writeAt w _ _), field?_writeAt_of_ne (Ne.symm hkey),
          writeAt_eq_insertField w, Json.insertField_comm hkey]

/-! ### Writing what is read -/

theorem sound_fieldsOf {found : Option Json} (h : ∀ v, found = some v → v.Sound) :
    (Json.object (fieldsOf found)).Sound := by
  unfold fieldsOf
  split
  · exact h _ rfl
  · exact .object .nil (List.forall_mem_nil _)

theorem writeAt_eq_self (hsound : (Json.object fields).Sound) (hkeys : keys ≠ [])
    (h : follow? keys (.object fields) = some value) : writeAt value keys fields = fields := by
  induction keys generalizing fields with
  | nil => exact absurd rfl hkeys
  | cons key keys ih =>
    rw [follow?] at h
    obtain ⟨u, hu, hfollow⟩ := Option.bind_eq_some_iff.mp h
    have hbelow : writeBelow value keys (some u) = u := by
      by_cases hnil : keys = []
      · subst hnil
        exact (Option.some.inj hfollow).symm
      · rw [writeBelow_of_ne_nil hnil]
        obtain ⟨next, keys, rfl⟩ := List.exists_cons_of_ne_nil hnil
        cases u with
        | object inner => exact congrArg Json.object (ih (hsound.field? hu) hnil hfollow)
        | _ => cases hfollow
    have hascending := (Json.sound_object_iff.mp hsound).1
    rw [writeAt_eq_insertField, hu, hbelow, Json.insertField_eq_self hascending hu]

/-! ### Sound storages -/

theorem sound_writeAt (hvalue : value.Sound) (hsound : (Json.object fields).Sound)
    (keys : List String) : (Json.object (writeAt value keys fields)).Sound := by
  induction keys generalizing fields with
  | nil => exact hsound
  | cons key keys ih =>
    rw [writeAt_eq_insertField]
    refine hsound.insertField ?_ key
    by_cases hkeys : keys = []
    · subst hkeys
      exact hvalue
    · rw [writeBelow_of_ne_nil hkeys]
      exact ih (sound_fieldsOf fun v hv => hsound.field? hv)

theorem sound_empty : Sound {} := .object .nil (List.forall_mem_nil _)

instance : Inhabited SoundStorage := ⟨{}, sound_empty⟩

theorem Sound.set {s : Storage} (h : s.Sound) (hvalue : value.Sound) (path : String) :
    (s.set path value).Sound :=
  sound_writeAt hvalue h (segments path)

/-- **What is written at a path is read there, and to write what is read changes nothing. A write
makes up for an earlier one at the same path or at a path below, and writes may change places when
neither path's keys begin the other's. A storage stays sound when a sound value is written.** -/
theorem set_laws (s : Storage) (p q r : String) (v w : Json) :
    (s.set p v).get? p = some v ∧
    (s.Sound → s.get? p = some v → s.set p v = s) ∧
    (s.set p v).set p w = s.set p w ∧
    (s.set (p ++ "." ++ r) v).set p w = s.set p w ∧
    (¬ segments p <+: segments q → ¬ segments q <+: segments p →
      (s.set p v).set q w = (s.set q w).set p v) ∧
    (s.Sound → v.Sound → (s.set p v).Sound) := by
  have hne : segments p ≠ [] := segments_ne_nil p
  refine ⟨get?_set_self s p v, ?same, ?again, ?below, ?aside, ?sound⟩
  case same =>
    intro hsound hget
    exact congrArg Storage.mk (writeAt_eq_self hsound hne hget)
  case again =>
    have hwrite := writeAt_writeAt_append hne [] v w s.fields
    rw [List.append_nil] at hwrite
    exact congrArg Storage.mk hwrite
  case below =>
    have hwrite := writeAt_writeAt_append hne (segments r) v w s.fields
    rw [← segments_append] at hwrite
    exact congrArg Storage.mk hwrite
  case aside =>
    intro hp hq
    exact congrArg Storage.mk (writeAt_comm hp hq v w s.fields)
  case sound =>
    intro hsound hvalue
    exact hsound.set hvalue p

/-- A mast with a flag that is up, or not. -/
def mast : Storage := ⟨[("flag", .bool true)]⟩

/-- Two writes below the flag may change places, although the first replaces it by an object. -/
theorem set_laws_mast :
    mast.Sound ∧ mast.get? "flag" = some (.bool true) ∧ mast.set "flag" (.bool true) = mast ∧
    ¬ segments "flag.red" <+: segments "flag.blue" ∧
    ¬ segments "flag.blue" <+: segments "flag.red" ∧
    (mast.set "flag.red" (.int 1)).set "flag.blue" (.int 2) =
      (mast.set "flag.blue" (.int 2)).set "flag.red" (.int 1) ∧
    (mast.set "flag" (.bool true)).Sound := by
  have hsound : mast.Sound :=
    .object (List.pairwise_singleton _ _) (List.forall_mem_singleton.mpr (.bool true))
  have hred : ¬ segments "flag.red" <+: segments "flag.blue" := by decide +kernel
  have hblue : ¬ segments "flag.blue" <+: segments "flag.red" := by decide +kernel
  obtain ⟨-, hsame, -, -, -, hkeeps⟩ := set_laws mast "flag" "" "" (.bool true) .null
  obtain ⟨-, -, -, -, haside, -⟩ := set_laws mast "flag.red" "flag.blue" "" (.int 1) (.int 2)
  exact ⟨hsound, rfl, hsame hsound rfl, hred, hblue, haside hred hblue, hkeeps hsound (.bool true)⟩

end Storage

end EventGraph
