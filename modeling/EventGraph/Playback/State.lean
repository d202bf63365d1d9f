import EventGraph.Graph.Basic
import EventGraph.Script.Action
import EventGraph.Script.Substitution

/-!
# Playback state

What a play-through of a graph knows at a time: the storage, the node it is on, what is shown,
and the errors recorded. Once an error is recorded the play-through is stuck.
-/

namespace EventGraph.Playback

inductive Cause where
  | line (fault : Script.LineFault)
  | condition (source : String) (fault : Script.Fault)
  | transitionLimit
  | commentEntered
  deriving Repr, DecidableEq

/-- How many nodes one move may enter. -/
def transitionLimit : Nat := 1000

def Cause.message : Cause → String
  | line f => "Line " ++ toString f.line ++ ": " ++ f.fault.message
  | condition source fault => "Condition '" ++ source ++ "': " ++ fault.message
  | Cause.transitionLimit =>
    "Stopped after " ++ toString Playback.transitionLimit ++
      " transitions without reaching displayable content"
  | commentEntered => "Comment nodes cannot be executed"

/-- An error of the node being run. -/
structure Error where
  node : Option NodeId
  cause : Cause
  deriving Repr, DecidableEq

def Error.text (e : Error) : String :=
  match e.node with
  | some id => "[" ++ id ++ "] " ++ e.cause.message
  | none => e.cause.message

/-- An entry on offer, with its place among the entries of the choice. -/
structure Offer where
  index : Nat
  text : String
  next : Option NodeId
  deriving Repr, DecidableEq

structure State where
  storage : Storage := {}
  current : Option NodeId := none
  errors : List Error := []
  text : String := ""
  offers : List Offer := []
  /-- Put before the next text shown. -/
  pendingPrefix : String := ""
  finished : Bool := false

namespace State

def isStuck (s : State) : Bool := !s.errors.isEmpty

def record (s : State) (node : Option NodeId) (cause : Cause) : State :=
  { s with errors := s.errors ++ [⟨node, cause⟩] }

def finish (s : State) : State := { s with finished := true }

/-- Shows nothing. -/
def clear (s : State) : State := { s with text := "", offers := [] }

/-- Shows a text behind the pending one, on a line of its own if neither is empty. -/
def showText (s : State) (text : String) : State :=
  let shown :=
    if s.pendingPrefix = "" then text
    else if text = "" then s.pendingPrefix
    else s.pendingPrefix ++ "\n" ++ text
  { s with text := shown, pendingPrefix := "" }

end State

end EventGraph.Playback
