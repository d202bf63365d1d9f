import EventGraph.Scalar

/-!
# Text measurement

A measurer gives the width of a text set on one line.
-/

namespace EventGraph

structure Measurer (α : Type) where
  width : List Char → α

namespace Measurer

variable {α : Type} [Scalar α]

/-- The same advance for every character. -/
def fixed (advance : α) : Measurer α := ⟨fun cs => (cs.length : α) * advance⟩

def standard : Measurer α := fixed 7.0

end Measurer

end EventGraph
