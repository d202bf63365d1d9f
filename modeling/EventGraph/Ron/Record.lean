import EventGraph.Ron.Numeral

/-!
# Fields of a record

What a value means to a field of some type, and how a record with named fields is taken
apart. Each reader fails on a value of another kind.
-/

namespace EventGraph.Ron

/-- A number as a single. A float of another width is none. -/
def float32? : Ron → Option Float32
  | word ⟨text, false⟩ => (Ron.float? ["f32"] text.toList).map Number.Literal.toFloat32
  | number text => (Ron.float? ["f32"] text).map Number.Literal.toFloat32
  | _ => none

/-- A number as an unsigned 64-bit integer. -/
def natural? : Ron → Option Nat
  | number text => (unsuffixed? .natural64 text).or (suffixed? .natural64 text)
  | _ => none

def bool? : Ron → Option Bool
  | word ⟨"true", false⟩ => some true
  | word ⟨"false", false⟩ => some false
  | _ => none

def string? : Ron → Option String
  | string s => some s
  | _ => none

def option? {β : Type} (inner? : Ron → Option β) : Ron → Option (Option β)
  | absent => some none
  | present v => (inner? v).map some
  | _ => none

def list? {β : Type} (item? : Ron → Option β) : Ron → Option (List β)
  | list items => items.mapM item?
  | _ => none

/-- The value of a field that comes at most once, or its default. -/
def field? {β : Type} (fields : List (String × Ron)) (key : String) (read : Ron → Option β)
    (default : β) : Option β :=
  match fields.filter (·.1 == key) with
  | [] => some default
  | [(_, v)] => read v
  | _ => none

/-- The fields of a record whose name, if it has one, is the given one. -/
def recordFields? (expected : String) : Ron → Option (List (String × Ron))
  | record none fields => some fields
  | record (some given) fields => if given.text = expected then some fields else none
  | _ => none

end EventGraph.Ron
