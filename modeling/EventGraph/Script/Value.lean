import EventGraph.Json.Printer
import EventGraph.Number.Literal
import EventGraph.Text.Blank

/-!
# Values in scripts

How scripts see JSON values: as truth values, as numbers and as text, and how an argument
that names no stored value is read as a literal.
-/

namespace EventGraph

namespace Json

/-- A double as a value: whole numbers below `2 ^ 53` become integers. -/
def ofNumber (x : Float) : Json :=
  match (Number.Exact.ofFloat x).toInt? with
  | some n => if n.natAbs < Nat.pow 2 53 then .int n else .float x
  | none => if x.isFinite then .float x else .null

/-- Numbers, and strings that spell a finite number. -/
def asNumber? : Json → Option Float
  | .int n => some (Float.ofInt n)
  | .float x => some x
  | .string s => Number.finiteFloat? (Text.trim s.toList)
  | _ => none

/-- Everything holds except null, `false`, zero, empty containers, the empty string and the
string `false`. -/
def truthy : Json → Bool
  | .null => false
  | .bool b => b
  | .int n => n != 0
  | .float x => x != 0.0
  | .string s => s != "" && s != "false"
  | .array items => !items.isEmpty
  | .object fields => !fields.isEmpty

/-- The text of a value inside other text: strings as they are, null as nothing. -/
def display : Json → String
  | .null => ""
  | .string s => s
  | v => v.compact

/-- Equal as numbers when both are numeric, else equal as text. -/
def sameValue (a b : Json) : Bool :=
  match a.asNumber?, b.asNumber? with
  | some x, some y => x == y
  | _, _ => a.display == b.display

end Json

namespace Script

/-- The text between a pair of double quotes that encloses the whole argument. -/
def betweenQuotes? : List Char → Option (List Char)
  | '"' :: rest => if rest.getLast? = some '"' then some rest.dropLast else none
  | _ => none

/-- Strips one pair of enclosing double quotes. -/
def unquote (arg : String) : String :=
  match betweenQuotes? arg.toList with
  | some inner => String.ofList inner
  | none => arg

/-- An argument read as a value: quoted text, a truth value, a finite number, or the bare
text itself. -/
def literal (arg : String) : Json :=
  let cs := Text.trim arg.toList
  match betweenQuotes? cs with
  | some inner => .string (String.ofList inner)
  | none =>
    if cs = "true".toList then .bool true
    else if cs = "false".toList then .bool false
    else match Number.finiteFloat? cs with
      | some x => .ofNumber x
      | none => .string (String.ofList cs)

end Script

end EventGraph
