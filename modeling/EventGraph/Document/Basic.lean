import EventGraph.Graph.Basic

/-!
# Documents

A document is the stored form of a graph. Stored heights are not trusted: a graph made from
a document is laid out anew.
-/

namespace EventGraph

structure Document (α : Type) where
  name : String := ""
  nodes : List (Node α) := []
  declarations : List Variable := []

namespace Document

variable {α : Type} [Scalar α]

instance : BEq (Document α) where
  beq a b := a.name == b.name && a.nodes == b.nodes && a.declarations == b.declarations

end Document

namespace Graph

variable {α : Type}

/-- Adds nodes in order, up to the first id that is in use. -/
def addAll (g : Graph α) : List (Node α) → Except GraphError (Graph α)
  | [] => .ok g
  | n :: rest => do
    let g ← g.add n
    g.addAll rest

variable [Scalar α]

/-- The graph of a document, laid out with a measurer. -/
def ofDocument (m : Measurer α) (d : Document α) : Except GraphError (Graph α) := do
  let g : Graph α := { name := d.name, declarations := d.declarations }
  let g ← g.addAll d.nodes
  pure (g.layOut m)

def toDocument (g : Graph α) : Document α :=
  { name := g.name, nodes := g.nodes, declarations := g.declarations }

end Graph

end EventGraph
