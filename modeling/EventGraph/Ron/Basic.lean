/-!
# RON values

The object notation in which settings are kept: records and tuples with an optional name,
lists, maps, text, numbers and words.
-/

namespace EventGraph

/-- An unquoted word. One that is marked as raw is never a keyword. -/
structure Word where
  text : String
  raw : Bool := false
  deriving Repr, DecidableEq, Inhabited

/-- A value. Numbers are kept as written and evaluated by the field that takes them. No field
takes bytes, so nothing is kept of them. -/
inductive Ron where
  | word (w : Word)
  | number (text : List Char)
  | string (text : String)
  | char (c : Char)
  | bytes
  | absent
  | present (v : Ron)
  | list (items : List Ron)
  | map (entries : List (Ron × Ron))
  | tuple (name? : Option Word) (items : List Ron)
  | record (name? : Option Word) (fields : List (String × Ron))
  deriving Inhabited

namespace Ron

/-- Reads something off the front of a text and returns what follows it. -/
abbrev Reader (α : Type) := List Char → Option (α × List Char)

end Ron

end EventGraph
