import EventGraph.Playback.State

/-!
# Playing a graph

A move follows targets from node to node until something has to be shown, an end is reached
or an error is recorded. Executed nodes without text and switches are passed through. A move
enters at most `transitionLimit` nodes.
-/

namespace EventGraph

open Playback

/-- A graph with the variables visible to it. -/
structure Story (α : Type) where
  graph : Graph α
  bindings : Bindings := []

namespace Story

variable {α : Type} (story : Story α)

/-- Replaces keys by stored values, else by variables. -/
def substitute (s : State) (text : String) : String :=
  Script.substitute (fun key => match s.storage.get? key with
    | some v => some v.display
    | none => story.bindings.get? key) text

/-- Evaluates a condition after substitution. -/
def test (s : State) (source : String) : Except Cause Bool :=
  let source := story.substitute s source
  match Script.evalCondition source s.storage with
  | .ok b => .ok b
  | .error fault => .error (.condition source fault)

/-- Runs a script after substitution and records its faults on a node. -/
def runScript (s : State) (node : NodeId) (script : String) : State :=
  let (storage, faults) := Script.run (story.substitute s script) s.storage
  { s with storage, errors := s.errors ++ faults.map fun f => ⟨some node, .line f⟩ }

/-- The offer of an entry whose condition holds. -/
def offer? (s : State) (index : Nat) (entry : ChoiceEntry) : Option Offer :=
  match story.test s entry.condition with
  | .ok true => some { index, text := story.substitute s entry.text, next := entry.next }
  | _ => none

def offers (s : State) (entries : List ChoiceEntry) : List Offer :=
  (entries.mapIdx (story.offer? s)).filterMap id

/-- The faults of all conditions of a choice. -/
def conditionErrors (s : State) (node : NodeId) (entries : List ChoiceEntry) : List Error :=
  entries.filterMap fun entry => match story.test s entry.condition with
    | .ok _ => none
    | .error cause => some ⟨some node, cause⟩

/-- The target of the first case that holds, else the fallback. A fault before that ends the
search. -/
def branch (s : State) (fallback : Option NodeId) :
    List SwitchCase → Except Cause (Option NodeId)
  | [] => .ok fallback
  | c :: rest => match story.test s c.condition with
    | .ok true => .ok c.next
    | .ok false => branch s fallback rest
    | .error cause => .error cause

/-- What becomes of a move that enters a node: it stops, or goes on to a target. -/
inductive Entered where
  | stop (s : State)
  | pass (next : Option NodeId) (s : State)

/-- Enters a node that the state is on already. -/
def enter (s : State) (n : Node α) : Entered :=
  match n.body with
  | .exec e =>
    let s := story.runScript s n.id e.script
    let text := story.substitute s e.text
    if text = "" then .pass e.next s else .stop (s.showText text)
  | .choice c =>
    let s := s.showText (story.substitute s c.prompt)
    .stop { s with
      offers := story.offers s c.entries
      errors := s.errors ++ story.conditionErrors s n.id c.entries }
  | .switch b => match story.branch s b.fallback b.cases with
    | .ok next => .pass next s
    | .error cause => .stop (s.record (some n.id) cause)
  | .terminal => .stop (s.showText "").finish
  | .comment _ => .stop (s.record (some n.id) .commentEntered).finish

/-- Follows targets while the bound on entered nodes lasts. -/
def walk : Nat → Option NodeId → State → State
  | bound, next, s =>
    if s.isStuck then s
    else
      let s := s.clear
      match next with
      | none => s.finish
      | some id => match bound with
        | 0 => s.record (some id) .transitionLimit
        | bound + 1 =>
          let s := { s with current := some id }
          match story.graph.node? id with
          | none => s.finish
          | some n => match story.enter s n with
            | .stop s => s
            | .pass next s => walk bound next s

/-- Moves to a target. A missing or unknown target ends the play-through; a stuck one does
not move. -/
def advance (next : Option NodeId) (s : State) : State := story.walk transitionLimit next s

/-- Enters the entry node. -/
def start (s : State) : State := story.advance story.graph.startId? s

/-- The node the state is on. -/
def currentNode? (s : State) : Option (Node α) := s.current.bind story.graph.node?

/-- Goes on from a shown text. Nothing happens while entries are on offer. -/
def proceed (s : State) : State :=
  if s.finished || !s.offers.isEmpty then s
  else match (story.currentNode? s).map Node.body with
    | some (.exec e) => story.advance e.next s
    | _ => s

/-- Why a pick is refused. -/
inductive Refusal where
  | outOfRange (position : Nat)
  | stuck
  deriving Repr, DecidableEq

def Refusal.message : Refusal → String
  | outOfRange position => "No choice " ++ toString position ++ " is on display"
  | stuck => "Runner is stopped on an error"

/-- The entry of the current choice at a place. -/
def currentEntry? (s : State) (index : Nat) : Option (NodeId × ChoiceEntry) :=
  match story.currentNode? s with
  | some n => match n.body with
    | .choice c => c.entries[index]?.map fun entry => (n.id, entry)
    | _ => none
  | none => none

/-- Picks an offer: runs its script, keeps its text for the next one shown, and moves on. -/
def choose (position : Nat) (s : State) : Except Refusal State :=
  if s.isStuck then .error .stuck
  else match s.offers[position]? with
    | none => .error (.outOfRange position)
    | some picked =>
      let s := match story.currentEntry? s picked.index with
        | some (id, entry) =>
          let s := story.runScript s id entry.script
          { s with pendingPrefix := story.substitute s entry.prefixText }
        | none => s
      .ok (story.advance picked.next s)

end Story

end EventGraph
