import EventGraph.Document.Printer
import EventGraph.Json.Tree

/-!
# Reading documents

Missing fields take their defaults, unknown fields are passed over, and a field given twice
is refused. A document, a variable, an entry and a case may also be written as the array of
their fields in order, of which the last ones may be missing; a node may not. Missing, null
and empty links are all no link.

A node is read whole before its kind is known. So everything in it but its id, position and
height is evaluated, and has to keep the reader's bounds, even where it is then passed over.
-/

namespace EventGraph.Document

open Json (Tree)

abbrev TreeFields := List (Option String × Tree)

/-- The values of the named fields. Fails on a key without text and on a named field that
comes twice. -/
def namedFields? (names : List String) (fields : TreeFields) : Option (List (Option Tree)) :=
  if fields.all (·.1.isSome) then
    names.mapM fun name => match fields.filter (·.1 == some name) with
      | [] => some none
      | [field] => some (some field.2)
      | _ => none
  else none

/-- The fields of a record, given as an object or as an array. -/
def record? (names : List String) : Tree → Option (List (Option Tree))
  | .object fields => namedFields? names fields
  | .array items =>
    if items.length ≤ names.length then
      some (items.map some ++ List.replicate (names.length - items.length) none)
    else none
  | _ => none

def string? : Option Tree → Option String
  | none => some ""
  | some (.string text?) => text?
  | _ => none

def link? : Option Tree → Option (Option NodeId)
  | none | some .null => some none
  | some (.string text?) => text?.map fun text => if text = "" then none else some text
  | _ => none

def list? {β : Type} (item? : Tree → Option β) : Option Tree → Option (List β)
  | none => some []
  | some (.array items) => items.mapM item?
  | _ => none

def number? : Tree → Option Float32
  | .number n => n.value?.bind Json.float32?
  | _ => none

def entry? (t : Tree) : Option ChoiceEntry := do
  match ← record? ["text", "conditionStr", "evalStr", "prefixText", "next"] t with
  | [text, condition, script, prefixText, next] =>
    pure { text := ← string? text, condition := ← string? condition, script := ← string? script,
           prefixText := ← string? prefixText, next := ← link? next }
  | _ => none

def case? (t : Tree) : Option SwitchCase := do
  match ← record? ["conditionStr", "next"] t with
  | [condition, next] => pure { condition := ← string? condition, next := ← link? next }
  | _ => none

/-- A kind is given by its name or by its place among the kinds. -/
def kind? : Tree → Option NodeKind
  | .string text? => text?.bind fun text => NodeKind.all.find? (·.tag == text)
  | .number n => match n.value? with
    | some (.int i) => if 0 ≤ i then NodeKind.all[i.toNat]? else none
    | _ => none
  | _ => none

def body? (kind : NodeKind) (fields : TreeFields) : Option Body :=
  match kind with
  | .exec => do
    match ← namedFields? ["text", "actionScript", "next"] fields with
    | [text, script, next] =>
      pure (.exec { text := ← string? text, script := ← string? script, next := ← link? next })
    | _ => none
  | .choice => do
    match ← namedFields? ["promptText", "choices"] fields with
    | [prompt, entries] =>
      pure (.choice { prompt := ← string? prompt, entries := ← list? entry? entries })
    | _ => none
  | .switch => do
    match ← namedFields? ["cases", "defaultNext"] fields with
    | [cases, fallback] =>
      pure (.switch { cases := ← list? case? cases, fallback := ← link? fallback })
    | _ => none
  | .terminal => some .terminal
  | .comment => do
    match ← namedFields? ["text"] fields with
    | [text] => pure (.comment (← string? text))
    | _ => none

/-- How deep the values inside a node may nest; the node itself is three deep. -/
def innerDepth : Nat := Json.maxDepth - 3

def node? : Tree → Option (Node Float32)
  | .object fields => do
    let place := ["id", "x", "y", "h"]
    let inner := fields.filter fun field => !place.contains (field.1.getD "")
    if inner.all fun field => (field.2.value? innerDepth).isSome then
      match ← namedFields? (place ++ ["kind"]) fields with
      | [some id, some x, some y, height, some kind] =>
        let body ← body? (← kind? kind) inner
        pure { id := ← string? (some id), x := ← number? x, y := ← number? y, body,
               height := ← match height with
                 | none => some 0.0
                 | some height => number? height
               textBlock := 0.0 }
      | _ => none
    else none
  | _ => none

def declaration? (t : Tree) : Option Variable := do
  match ← record? ["key", "value", "importFrom"] t with
  | [key, value, importFrom] =>
    pure { key := ← string? key, value := ← string? value, importFrom := ← string? importFrom }
  | _ => none

def ofTree? (t : Tree) : Option (Document Float32) := do
  match ← record? ["name", "nodes", "variables"] t with
  | [name, nodes, declarations] =>
    pure { name := ← string? name, nodes := ← list? node? nodes,
           declarations := ← list? declaration? declarations }
  | _ => none

/-- Reads a document from its text. -/
def read? (text : String) : Option (Document Float32) := (Tree.read? text).bind ofTree?

end EventGraph.Document
