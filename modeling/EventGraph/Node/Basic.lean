import EventGraph.Color
import EventGraph.Plane.Basic

/-!
# Nodes

A node is a positioned box around one of five bodies. Its exits are the link places of the
body, numbered from zero; the exits of a switch are its cases followed by the default.
-/

namespace EventGraph

abbrev NodeId := String

inductive NodeKind where
  | exec
  | choice
  | switch
  | terminal
  | comment
  deriving Repr, DecidableEq

namespace NodeKind

/-- All kinds, in palette order. -/
def all : List NodeKind := [exec, choice, switch, terminal, comment]

def title : NodeKind → String
  | exec => "Exec"
  | choice => "Choice"
  | switch => "Switch"
  | terminal => "End"
  | comment => "Comment"

/-- The colour of the header. -/
def color : NodeKind → Color
  | exec => .rgb 70 100 130
  | choice => .rgb 120 90 140
  | switch => .rgb 150 110 60
  | terminal => .rgb 140 60 60
  | comment => .rgb 90 90 90

end NodeKind

/-- Runs an action script and shows text. -/
structure Exec where
  text : String := ""
  script : String := ""
  next : Option NodeId := none
  deriving Repr, DecidableEq

/-- One entry of a choice. -/
structure ChoiceEntry where
  text : String := ""
  /-- Shown only where this holds. -/
  condition : String := ""
  /-- Run when the entry is picked. -/
  script : String := ""
  /-- Put before the next text shown after picking. -/
  prefixText : String := ""
  next : Option NodeId := none
  deriving Repr, DecidableEq

/-- Offers a filtered list of entries. -/
structure Choice where
  prompt : String := ""
  entries : List ChoiceEntry := []
  deriving Repr, DecidableEq

structure SwitchCase where
  condition : String := ""
  next : Option NodeId := none
  deriving Repr, DecidableEq

/-- Branches on the first case that holds. -/
structure Switch where
  cases : List SwitchCase := []
  fallback : Option NodeId := none
  deriving Repr, DecidableEq

inductive Body where
  | exec (e : Exec)
  | choice (c : Choice)
  | switch (s : Switch)
  | terminal
  | comment (text : String)
  deriving Repr, DecidableEq

namespace Body

def kind : Body → NodeKind
  | exec _ => .exec
  | choice _ => .choice
  | switch _ => .switch
  | terminal => .terminal
  | comment _ => .comment

/-- The body of a new node. -/
def initial : NodeKind → Body
  | .exec => exec { text := "New text" }
  | .choice => choice { entries := [{ text := "Choice 1" }] }
  | .switch => switch { cases := [{ condition := "true" }] }
  | .terminal => terminal
  | .comment => comment ""

/-- The main text block, where there is one. -/
def text? : Body → Option String
  | exec e => some e.text
  | choice c => some c.prompt
  | comment text => some text
  | switch _ | terminal => none

def exitCount : Body → Nat
  | exec _ => 1
  | choice c => c.entries.length
  | switch s => s.cases.length + 1
  | terminal | comment _ => 0

/-- The targets of the exits, in exit order. -/
def exits : Body → List (Option NodeId)
  | exec e => [e.next]
  | choice c => c.entries.map (·.next)
  | switch s => s.cases.map (·.next) ++ [s.fallback]
  | terminal | comment _ => []

def exitLabels : Body → List String
  | exec _ => ["next"]
  | choice c => c.entries.map (·.text)
  | switch s => s.cases.map (·.condition) ++ ["default"]
  | terminal | comment _ => []

/-- Points exit `index` at `target`, or unlinks it; other bodies and places do not change. -/
def setExit (index : Nat) (target : Option NodeId) : Body → Body
  | exec e => if index = 0 then exec { e with next := target } else exec e
  | choice c => choice { c with entries := c.entries.modify index ({ · with next := target }) }
  | switch s =>
    if index = s.cases.length then switch { s with fallback := target }
    else switch { s with cases := s.cases.modify index ({ · with next := target }) }
  | b => b

/-- Changes every target. -/
def mapExits (f : Option NodeId → Option NodeId) : Body → Body
  | exec e => exec { e with next := f e.next }
  | choice c => choice { c with entries := c.entries.map fun e => { e with next := f e.next } }
  | switch s => switch
      { cases := s.cases.map fun c => { c with next := f c.next }, fallback := f s.fallback }
  | b => b

@[simp] theorem length_exits (b : Body) : b.exits.length = b.exitCount := by
  cases b <;> simp [exits, exitCount]

@[simp] theorem length_exitLabels (b : Body) : b.exitLabels.length = b.exitCount := by
  cases b <;> simp [exitLabels, exitCount]

theorem exits_mapExits (f : Option NodeId → Option NodeId) (b : Body) :
    (b.mapExits f).exits = b.exits.map f := by
  cases b <;> simp [exits, mapExits]

end Body

/-- A node. The height and the height of the text block under the header are derived from
the body; see `Node.layOut`. -/
structure Node (α : Type) where
  id : NodeId
  x : α
  y : α
  body : Body
  height : α
  textBlock : α
  deriving Repr

namespace Node

variable {α : Type} [Scalar α]

/-- The text block follows from the body and the measurer, so it takes no part in equality. -/
instance : BEq (Node α) where
  beq n m := n.id == m.id && n.x == m.x && n.y == m.y && n.body == m.body && n.height == m.height

def kind (n : Node α) : NodeKind := n.body.kind

def position (n : Node α) : Point α := ⟨n.x, n.y⟩

def moveTo (n : Node α) (p : Point α) : Node α := { n with x := p.x, y := p.y }

/-- The target of one exit. -/
def exit? (n : Node α) (index : Nat) : Option NodeId := n.body.exits[index]?.join

/-- Unlinks every exit that points at `target` and counts them. -/
def clearLinksTo (n : Node α) (target : NodeId) : Node α × Nat :=
  ({ n with body := n.body.mapExits fun t => if t = some target then none else t },
    n.body.exits.count (some target))

end Node

end EventGraph
