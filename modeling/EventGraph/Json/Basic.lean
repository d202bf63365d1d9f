/-!
# JSON values

Whole numbers and floats are kept apart: `1` and `1.0` are different values. The fields of
an object are listed by ascending key; `insertField` keeps that order.
-/

namespace EventGraph

inductive Json where
  | null
  | bool (b : Bool)
  | int (n : Int)
  | float (x : Float)
  | string (s : String)
  | array (items : List Json)
  | object (fields : List (String × Json))
  deriving Inhabited

namespace Json

abbrev Fields := List (String × Json)

def field? (key : String) : Fields → Option Json
  | [] => none
  | (k, v) :: rest => if k = key then some v else field? key rest

/-- Writes one field, in place of the old one or before the first greater key. -/
def insertField (key : String) (value : Json) : Fields → Fields
  | [] => [(key, value)]
  | (k, v) :: rest =>
    if k = key then (key, value) :: rest
    else if key < k then (key, value) :: (k, v) :: rest
    else (k, v) :: insertField key value rest

/-- Ascending keys, at the top level. -/
def Ascending (fields : Fields) : Prop := (fields.map Prod.fst).Pairwise (· < ·)

def asObject? : Json → Option Fields
  | object fields => some fields
  | _ => none

@[simp] theorem field?_nil (key : String) : field? key [] = none := rfl

@[simp] theorem field?_insertField_self (key : String) (value : Json) (fields : Fields) :
    field? key (insertField key value fields) = some value := by
  induction fields with
  | nil => simp [insertField, field?]
  | cons entry rest ih =>
    obtain ⟨k, v⟩ := entry
    simp only [insertField]
    split
    · simp [field?]
    · split
      · simp [field?]
      · simp [field?, *]

theorem field?_insertField_of_ne {key other : String} (h : key ≠ other) (value : Json)
    (fields : Fields) :
    field? other (insertField key value fields) = field? other fields := by
  induction fields with
  | nil => simp [insertField, field?, h]
  | cons entry rest ih =>
    obtain ⟨k, v⟩ := entry
    simp only [insertField]
    split
    · next hk => subst hk; simp [field?, h]
    · split
      · simp [field?, h]
      · simp [field?, ih]

end Json

end EventGraph
