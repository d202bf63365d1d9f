import EventGraph.Graph.Basic

/-!
# Validation

Every exit has to be linked, to a node of the graph, and a choice needs an entry.
-/

namespace EventGraph

inductive IssueKind where
  | noNext
  | noEntries
  | entryUnlinked (number : Nat) (text : String)
  | caseUnlinked (number : Nat) (condition : String)
  | noFallback
  | missingTarget (number : Nat) (target : NodeId)
  deriving Repr, DecidableEq

def IssueKind.message : IssueKind → String
  | noNext => "Exec node has no next node"
  | noEntries => "Choice node has no choices"
  | entryUnlinked number text =>
    "Choice " ++ toString number ++ " (\"" ++ text ++ "\") has no next node"
  | caseUnlinked number condition =>
    "Case " ++ toString number ++ " (\"" ++ condition ++ "\") has no next node"
  | noFallback => "Switch node has no default next node"
  | missingTarget number target =>
    "Exit " ++ toString number ++ " points at missing node '" ++ target ++ "'"

/-- A structural problem of one node. -/
structure Issue where
  node : NodeId
  kind : IssueKind
  deriving Repr, DecidableEq

namespace Issue

def message (i : Issue) : String := i.kind.message

def text (i : Issue) : String := "[" ++ i.node ++ "] " ++ i.message

end Issue

namespace Body

/-- Missing links, in exit order. -/
def unlinked : Body → List IssueKind
  | exec e => if e.next.isNone then [.noNext] else []
  | choice c =>
    (if c.entries.isEmpty then [.noEntries] else []) ++
      (c.entries.mapIdx fun i e =>
        if e.next.isNone then [IssueKind.entryUnlinked (i + 1) e.text] else []).flatten
  | switch s =>
    (s.cases.mapIdx fun i c =>
        if c.next.isNone then [IssueKind.caseUnlinked (i + 1) c.condition] else []).flatten ++
      (if s.fallback.isNone then [.noFallback] else [])
  | terminal | comment _ => []

end Body

/-- The missing links of a node. -/
def Node.validate {α : Type} (n : Node α) : List Issue := n.body.unlinked.map (Issue.mk n.id)

namespace Graph

variable {α : Type}

/-- The missing links of every node, in node order. -/
def validate (g : Graph α) : List Issue := g.nodes.flatMap (·.validate)

/-- The exits of a node that name no node of the graph. -/
def missingTargets (g : Graph α) (n : Node α) : List Issue :=
  (n.body.exits.mapIdx fun i target? => match target? with
    | some target =>
      if g.contains target then [] else [Issue.mk n.id (.missingTarget (i + 1) target)]
    | none => []).flatten

def validateTargets (g : Graph α) : List Issue := g.nodes.flatMap g.missingTargets

/-- Missing links and missing targets, grouped by node. -/
def validateAll (g : Graph α) : List Issue :=
  g.nodes.flatMap fun n => n.validate ++ g.validateTargets.filter (·.node == n.id)

end Graph

end EventGraph
