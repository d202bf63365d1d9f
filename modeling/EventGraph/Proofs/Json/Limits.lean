import EventGraph.Json.Tree
import Mathlib.Algebra.Group.Nat.Defs

/-!
# The limits of a reader

A tree has a value if it keeps the limits of the reader: its numerals have values, its strings and
keys have texts, and its containers nest no deeper than the reader follows them.
-/

namespace EventGraph.Json

/-! ### Numerals -/

/-- The reader finds a number that a numeral stands for. -/
def Numeral.HasValue (n : Numeral) : Prop := n.value?.isSome = true

/-- The greatest double. -/
def greatestDouble : Nat := (2 ^ 53 - 1) * 2 ^ 971

/-- What a numeral stands for, without its sign, is not above the greatest double. -/
def Numeral.InDoubleRange (n : Numeral) : Prop :=
  let exponent := n.exponent?.getD 0 - n.fraction.length
  Number.digitsValue (n.whole ++ n.fraction) * 10 ^ exponent.toNat ≤
    greatestDouble * 10 ^ (-exponent).toNat

instance (n : Numeral) : Decidable n.InDoubleRange := inferInstanceAs (Decidable (_ ≤ _))

namespace Tree

/-! ### Trees -/

/-- All numerals of a tree are of a kind, its strings and keys have texts, and its containers nest
at most `depth` deep. -/
inductive Keeps (ofKind : Numeral → Prop) : Nat → Tree → Prop
  | null {depth : Nat} : Keeps ofKind depth .null
  | bool {depth : Nat} {b : Bool} : Keeps ofKind depth (.bool b)
  | number {depth : Nat} {n : Numeral} : ofKind n → Keeps ofKind depth (.number n)
  | string {depth : Nat} {text : String} : Keeps ofKind depth (.string (some text))
  | array {depth : Nat} {items : List Tree} : (∀ item ∈ items, Keeps ofKind depth item) →
      Keeps ofKind (depth + 1) (.array items)
  | object {depth : Nat} {fields : List (Option String × Tree)} :
      (∀ field ∈ fields, field.1.isSome = true) → (∀ field ∈ fields, Keeps ofKind depth field.2) →
      Keeps ofKind (depth + 1) (.object fields)

theorem isSome_itemValues?_iff {depth : Nat} {items : List Tree} :
    (itemValues? depth items).isSome = true ↔
      ∀ item ∈ items, (value? depth item).isSome = true := by
  induction items with
  | nil => exact iff_of_true rfl (List.forall_mem_nil _)
  | cons item rest ih =>
    rw [List.forall_mem_cons, ← ih, itemValues?]
    cases value? depth item with
    | none => simp
    | some v => cases itemValues? depth rest <;> simp

theorem isSome_fieldValues?_iff {depth : Nat} {acc : Fields}
    {fields : List (Option String × Tree)} :
    (fieldValues? depth acc fields).isSome = true ↔
      ∀ field ∈ fields, field.1.isSome = true ∧ (value? depth field.2).isSome = true := by
  induction fields generalizing acc with
  | nil => exact iff_of_true rfl (List.forall_mem_nil _)
  | cons field rest ih =>
    obtain ⟨key?, item⟩ := field
    rw [List.forall_mem_cons, fieldValues?]
    cases key? with
    | none => simp
    | some key => cases hv : value? depth item with
      | none => simp
      | some v => simpa using ih

variable {ofKind : Numeral → Prop} {depth : Nat}

theorem keeps_number_iff {n : Numeral} : Keeps ofKind depth (.number n) ↔ ofKind n :=
  ⟨fun h => by cases h; assumption, .number⟩

theorem keeps_string_iff {text? : Option String} :
    Keeps ofKind depth (.string text?) ↔ text?.isSome = true := by
  constructor
  · intro h
    cases h
    rfl
  · intro h
    obtain ⟨text, rfl⟩ := Option.isSome_iff_exists.mp h
    exact .string

theorem keeps_array_iff {items : List Tree} :
    Keeps ofKind (depth + 1) (.array items) ↔ ∀ item ∈ items, Keeps ofKind depth item :=
  ⟨fun h => by cases h; assumption, .array⟩

theorem keeps_object_iff {fields : List (Option String × Tree)} :
    Keeps ofKind (depth + 1) (.object fields) ↔
      ∀ field ∈ fields, field.1.isSome = true ∧ Keeps ofKind depth field.2 := by
  constructor
  · intro h
    cases h with
    | object hkeys hvalues => exact fun field hfield => ⟨hkeys field hfield, hvalues field hfield⟩
  · intro h
    exact .object (fun field hfield => (h field hfield).1) fun field hfield => (h field hfield).2

/-- A tree has a value just when it keeps the limits. -/
theorem isSome_value?_iff {t : Tree} : (value? depth t).isSome = true ↔
    Keeps Numeral.HasValue depth t := by
  induction depth generalizing t with
  | zero =>
    cases t with
    | null => exact iff_of_true rfl .null
    | bool b => exact iff_of_true rfl .bool
    | number n => rw [value?, keeps_number_iff, Numeral.HasValue]
    | string text? => rw [value?, Option.isSome_map, keeps_string_iff]
    | array items | object fields => exact iff_of_false Bool.false_ne_true nofun
  | succ depth ih =>
    cases t with
    | null => exact iff_of_true rfl .null
    | bool b => exact iff_of_true rfl .bool
    | number n => rw [value?, keeps_number_iff, Numeral.HasValue]
    | string text? => rw [value?, Option.isSome_map, keeps_string_iff]
    | array items =>
      simp only [value?, Option.isSome_map, isSome_itemValues?_iff, ih, keeps_array_iff]
    | object fields =>
      simp only [value?, Option.isSome_map, isSome_fieldValues?_iff, ih, keeps_object_iff]

end Tree

end EventGraph.Json
