import EventGraph.Document.Basic
import EventGraph.Json.Printer

/-!
# Writing documents

Documents are written as JSON objects. A node is one flat object: id and position, the kind,
the fields of its body, and the height. A missing link is written as the empty string.
-/

namespace EventGraph

open Json (Layered)

/-- The name of a kind in documents. -/
def NodeKind.tag : NodeKind → String
  | exec => "exec"
  | choice => "choice"
  | switch => "switch"
  | terminal => "end"
  | comment => "comment"

namespace Document

def linkText (target : Option NodeId) : Layered := .string (target.getD "")

def entryText (e : ChoiceEntry) : Layered :=
  .object [("text", .string e.text), ("conditionStr", .string e.condition),
    ("evalStr", .string e.script), ("prefixText", .string e.prefixText),
    ("next", linkText e.next)]

def caseText (c : SwitchCase) : Layered :=
  .object [("conditionStr", .string c.condition), ("next", linkText c.next)]

def bodyFields : Body → List (String × Layered)
  | .exec e =>
    [("text", .string e.text), ("actionScript", .string e.script), ("next", linkText e.next)]
  | .choice c =>
    [("promptText", .string c.prompt), ("choices", .array (c.entries.map entryText))]
  | .switch s =>
    [("cases", .array (s.cases.map caseText)), ("defaultNext", linkText s.fallback)]
  | .terminal => []
  | .comment text => [("text", .string text)]

def nodeText (n : Node Float32) : Layered :=
  .object ([("id", .string n.id), ("x", .float32 n.x), ("y", .float32 n.y),
    ("kind", .string n.kind.tag)] ++ bodyFields n.body ++ [("h", .float32 n.height)])

def variableText (v : Variable) : Layered :=
  .object [("key", .string v.key), ("value", .string v.value),
    ("importFrom", .string v.importFrom)]

def layered (d : Document Float32) : Layered :=
  .object [("name", .string d.name), ("nodes", .array (d.nodes.map nodeText)),
    ("variables", .array (d.declarations.map variableText))]

/-- Text without any space. -/
def compact (d : Document Float32) : String := (layered d).compact

/-- Text with one item a line. -/
def indented (d : Document Float32) : String := (layered d).indented

end Document

end EventGraph
