import EventGraph.Node.Basic
import EventGraph.Text.Wrap

/-!
# Node layout

A node is a header, a text block and, on choices and switches, one row for each exit, in this
order from top to bottom. A kind's least height adds room below the last row.
-/

namespace EventGraph

namespace Metrics

variable {α : Type} [Scalar α]

def nodeWidth : α := 200.0
def headerHeight : α := 24.0
/-- Inner padding around text. -/
def padding : α := 8.0
def lineHeight : α := 16.0
def exitRowHeight : α := 22.0
def closeButtonSize : α := 14.0
def anchorRadius : α := 6.0

/-- Width of text inside a node. -/
def textWidth : α := nodeWidth - 2.0 * padding

def leastHeight : NodeKind → α
  | .exec | .choice | .switch => 56.0
  | .terminal | .comment => 40.0

end Metrics

namespace Text

variable {α : Type} [Scalar α]

/-- The number of lines of a text inside a node. -/
def lineCount (m : Measurer α) (text : String) : Nat := (wrap m Metrics.textWidth text).length

end Text

namespace Node

open Metrics

variable {α : Type} [Scalar α]

/-- The height of a text under the header: padding and its lines, nothing for no lines. -/
def textBlockHeight (m : Measurer α) (text : String) : α :=
  let lines := Text.lineCount m text
  if lines = 0 then 0.0 else padding + (lines : α) * lineHeight

/-- The height of a body below a text block. -/
def bodyHeight (body : Body) (textBlock : α) : α :=
  let least := leastHeight body.kind
  match body with
  | .exec _ | .comment _ => Scalar.max (headerHeight + textBlock + padding) least
  | .choice c =>
    Scalar.max (headerHeight + textBlock + (c.entries.length : α) * exitRowHeight + padding) least
  | .switch s =>
    Scalar.max (headerHeight + ((s.cases.length + 1 : Nat) : α) * exitRowHeight + padding) least
  | .terminal => least

/-- Derives the text block and the height from the body. -/
def layOut (m : Measurer α) (n : Node α) : Node α :=
  let textBlock := match n.body.text? with
    | some text => textBlockHeight m text
    | none => 0.0
  { n with textBlock, height := bodyHeight n.body textBlock }

/-- A laid out node at the world origin. -/
def create (id : NodeId) (body : Body) : Node α :=
  layOut .standard { id, x := 0.0, y := 0.0, body, height := 0.0, textBlock := 0.0 }

def rect (n : Node α) : Rect α := .ofSize n.position ⟨nodeWidth, n.height⟩

def closeButton (n : Node α) : Rect α :=
  let inset := (headerHeight - closeButtonSize) * 0.5
  .ofSize ⟨n.x + nodeWidth - inset - closeButtonSize, n.y + inset⟩ (.diagonal closeButtonSize)

/-- Where incoming connectors end. -/
def entrance (n : Node α) : Point α := ⟨n.x, n.y + n.height * 0.5⟩

/-- Where outgoing connectors start, in exit order. -/
def exitAnchors (n : Node α) : List (Point α) :=
  let right := n.x + nodeWidth
  match n.body with
  | .exec _ => [⟨right, n.y + n.height * 0.5⟩]
  | .choice _ | .switch _ =>
    let top := n.y + headerHeight + n.textBlock
    (List.range n.body.exitCount).map fun (i : Nat) =>
      ⟨right, top + ((i : α) + 0.5) * exitRowHeight⟩
  | .terminal | .comment _ => []

@[simp] theorem length_exitAnchors (n : Node α) : n.exitAnchors.length = n.body.exitCount := by
  unfold exitAnchors
  split <;> simp_all [Body.exitCount]

end Node

end EventGraph
