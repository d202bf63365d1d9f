import EventGraph.Node.Layout
import EventGraph.Variable.Resolution

/-!
# Graphs

A graph is a list of nodes in draw order, with a name and declared variables. Nodes are
found by id; adding refuses an id that is in use, so ids stay distinct.
-/

namespace EventGraph

inductive GraphError where
  | nodeNotFound (id : NodeId)
  | duplicateNode (id : NodeId)
  | exitOutOfRange (node : NodeId) (index : Nat)
  deriving Repr, DecidableEq

def GraphError.message : GraphError → String
  | nodeNotFound id => "Node not found: " ++ id
  | duplicateNode id => "Duplicate node id: " ++ id
  | exitOutOfRange node index => "Node " ++ node ++ " has no exit " ++ toString index

/-- Points one exit at `target`, or unlinks it. Returns the previous target too. -/
def Node.setExit {α : Type} (n : Node α) (index : Nat) (target : Option NodeId) :
    Except GraphError (Node α × Option NodeId) :=
  match n.body.exits[index]? with
  | some previous => .ok ({ n with body := n.body.setExit index target }, previous)
  | none => .error (.exitOutOfRange n.id index)

structure Graph (α : Type) where
  name : String := "Untitled"
  nodes : List (Node α) := []
  declarations : List Variable := []

namespace Graph

variable {α : Type}

def ids (g : Graph α) : List NodeId := g.nodes.map (·.id)

def node? (g : Graph α) (id : NodeId) : Option (Node α) := g.nodes.find? (·.id == id)

def contains (g : Graph α) (id : NodeId) : Bool := g.nodes.any (·.id == id)

/-- No two nodes share an id. -/
def DistinctIds (g : Graph α) : Prop := g.ids.Nodup

def add (g : Graph α) (n : Node α) : Except GraphError (Graph α) :=
  if g.contains n.id then .error (.duplicateNode n.id)
  else .ok { g with nodes := g.nodes ++ [n] }

/-- Replaces the node with the id of `n`. -/
def replace (g : Graph α) (n : Node α) : Graph α :=
  { g with nodes := g.nodes.map fun m => if m.id = n.id then n else m }

/-- Removes a node and unlinks every exit elsewhere that points at it. -/
def remove (g : Graph α) (id : NodeId) : Option (Graph α × Node α) :=
  (g.node? id).map fun removed =>
    let rest := g.nodes.eraseP (·.id == id)
    ({ g with nodes := rest.map fun n => (n.clearLinksTo id).1 }, removed)

/-- Changes the target of one exit and returns the previous one. -/
def setExit (g : Graph α) (node : NodeId) (index : Nat) (target : Option NodeId) :
    Except GraphError (Graph α × Option NodeId) :=
  match g.node? node with
  | none => .error (.nodeNotFound node)
  | some n => (n.setExit index target).map fun (n, previous) => (g.replace n, previous)

/-- Links an exit to an existing node. -/
def setLink (g : Graph α) (source : NodeId) (index : Nat) (target : NodeId) :
    Except GraphError (Graph α × Option NodeId) :=
  if g.contains target then g.setExit source index (some target)
  else .error (.nodeNotFound target)

def clearLink (g : Graph α) (node : NodeId) (index : Nat) :
    Except GraphError (Graph α × Option NodeId) :=
  g.setExit node index none

/-- The id of the entry node if it has one. -/
def rootId : NodeId := "root"

/-- The entry node: the root if there is one, else the first node. -/
def startId? (g : Graph α) : Option NodeId :=
  if g.contains rootId then some rootId else g.ids.head?

def moveNode (g : Graph α) (id : NodeId) (p : Point α) : Graph α :=
  match g.node? id with
  | some n => g.replace (n.moveTo p)
  | none => g

/-- The topmost node whose bounds contain a world point. -/
def nodeAt? [Scalar α] (g : Graph α) (world : Point α) : Option (Node α) :=
  g.nodes.reverse.find? (·.rect.contains world)

def layOut [Scalar α] (g : Graph α) (m : Measurer α) : Graph α :=
  { g with nodes := g.nodes.map (·.layOut m) }

/-- The variables visible to the graph, imports resolved through a library. -/
def visibleVariables (g : Graph α) (library : Variable.Library) : Bindings :=
  Variable.resolveDeclared library g.name g.declarations

@[simp] theorem ids_replace (g : Graph α) (n : Node α) : (g.replace n).ids = g.ids := by
  simp only [ids, replace, List.map_map]
  apply List.map_congr_left
  intro m _
  simp only [Function.comp]
  split <;> simp_all

end Graph

end EventGraph
