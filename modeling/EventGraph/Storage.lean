import EventGraph.Json.Basic
import EventGraph.Text.Blank

/-!
# Stored values

A storage is a JSON object addressed by dot paths: `a.b` is the field `b` of the object in
the field `a`. Reading walks objects only; writing creates the objects on the way and
replaces whatever else stands there.
-/

namespace EventGraph

structure Storage where
  fields : Json.Fields := []
  deriving Inhabited

namespace Storage

/-- The keys of a path, always at least one; empty keys count. -/
def segments (path : String) : List String :=
  (Text.splitWhere (· == '.') path.toList).map String.ofList

/-- What a list of keys reaches inside a value. -/
def follow? : List String → Json → Option Json
  | [], v => some v
  | key :: keys, .object fields => (Json.field? key fields).bind (follow? keys)
  | _ :: _, _ => none

/-- Writes a value at a list of keys inside an object. -/
def writeAt (value : Json) : List String → Json.Fields → Json.Fields
  | [], fields => fields
  | [key], fields => Json.insertField key value fields
  | key :: keys, fields =>
    let inner := ((Json.field? key fields).bind Json.asObject?).getD []
    Json.insertField key (.object (writeAt value keys inner)) fields

def get? (s : Storage) (path : String) : Option Json := follow? (segments path) (.object s.fields)

def set (s : Storage) (path : String) (value : Json) : Storage :=
  ⟨writeAt value (segments path) s.fields⟩

/-- The storage that holds the fields of an object. -/
def ofJson? (v : Json) : Option Storage := v.asObject?.map Storage.mk

theorem segments_ne_nil (path : String) : segments path ≠ [] := by
  simp [segments, Text.splitWhere_ne_nil]

theorem follow?_writeAt_self (value : Json) {keys : List String} (h : keys ≠ [])
    (fields : Json.Fields) : follow? keys (.object (writeAt value keys fields)) = some value := by
  induction keys generalizing fields with
  | nil => exact absurd rfl h
  | cons key keys ih =>
    cases keys with
    | nil => simp [writeAt, follow?]
    | cons next keys => simp only [writeAt, follow?, Json.field?_insertField_self, Option.bind_some]
                        exact ih (by simp) _

theorem get?_set_self (s : Storage) (path : String) (value : Json) :
    (s.set path value).get? path = some value :=
  follow?_writeAt_self value (segments_ne_nil path) s.fields

end Storage

end EventGraph
