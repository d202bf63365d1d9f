import EventGraph.Table

/-!
# Variables and bindings

A graph declares variables, local ones and ones imported from other graphs. Bindings are
pairs of a key and a value in the order in which the keys first came.
-/

namespace EventGraph

structure Variable where
  key : String := ""
  value : String := ""
  /-- The graph the value comes from; empty for local variables. -/
  importFrom : String := ""
  deriving Repr, DecidableEq

def Variable.isImported (v : Variable) : Bool := v.importFrom != ""

abbrev Bindings := Table String

end EventGraph
