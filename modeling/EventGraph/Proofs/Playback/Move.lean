import EventGraph.Playback.Story

/-!
# The rules of a move

How a move goes through a graph, as rules on states. A node is passed or stopped at, a chain
of passed nodes leads to a target, and a move ends where the chain stops or enters too many
nodes. The rules speak of scripts, conditions and substitution only, not of the functions by
which a story is played.
-/

namespace EventGraph

namespace Playback

/-- Two texts, each on lines of its own. An empty text takes no line. -/
def joinLines (first second : String) : String :=
  "\n".intercalate ([first, second].filter (· ≠ ""))

/-- The state on a node that has just been entered, with nothing shown. -/
def State.entering (s : State) (id : NodeId) : State :=
  { s with current := some id, text := "", offers := [] }

end Playback

namespace Story

open Playback

variable {α : Type} (story : Story α)

/-- The value of a condition after substitution. -/
def verdict (s : State) (source : String) : Except Script.Fault Bool :=
  Script.evalCondition (story.substitute s source) s.storage

/-- No case holds, and none is faulty. -/
def NoneHolds (s : State) (cases : List SwitchCase) : Prop :=
  ∀ c ∈ cases, story.verdict s c.condition = .ok false

/-- A node is left at once: an executed one whose script has no fault and that has no text,
or a switch, by its first case that holds or by its fallback. -/
inductive Passes (s : State) : NodeId → Option NodeId → State → Prop
  | exec {id : NodeId} {n : Node α} {e : Exec} {storage : Storage} :
      story.graph.node? id = some n → n.body = .exec e →
      Script.run (story.substitute s e.script) s.storage = (storage, []) →
      story.substitute { s with storage } e.text = "" →
      Passes s id e.next { s.entering id with storage }
  | taken {id : NodeId} {n : Node α} {b : Switch} {before after : List SwitchCase}
      {c : SwitchCase} :
      story.graph.node? id = some n → n.body = .switch b → b.cases = before ++ c :: after →
      story.NoneHolds s before → story.verdict s c.condition = .ok true →
      Passes s id c.next (s.entering id)
  | fallback {id : NodeId} {n : Node α} {b : Switch} :
      story.graph.node? id = some n → n.body = .switch b → story.NoneHolds s b.cases →
      Passes s id b.fallback (s.entering id)

/-- The entries of a choice from a place on: those that hold are offered in order, with their
places, and the faulty ones are reported in order. -/
inductive Sifts (s : State) : Nat → List ChoiceEntry → List Offer → List Cause → Prop
  | nil {place : Nat} : Sifts s place [] [] []
  | offered {place : Nat} {entry : ChoiceEntry} {rest : List ChoiceEntry}
      {offers : List Offer} {causes : List Cause} :
      story.verdict s entry.condition = .ok true → Sifts s (place + 1) rest offers causes →
      Sifts s place (entry :: rest)
        (⟨place, story.substitute s entry.text, entry.next⟩ :: offers) causes
  | hidden {place : Nat} {entry : ChoiceEntry} {rest : List ChoiceEntry}
      {offers : List Offer} {causes : List Cause} :
      story.verdict s entry.condition = .ok false → Sifts s (place + 1) rest offers causes →
      Sifts s place (entry :: rest) offers causes
  | faulty {place : Nat} {entry : ChoiceEntry} {rest : List ChoiceEntry}
      {offers : List Offer} {causes : List Cause} {fault : Script.Fault} :
      story.verdict s entry.condition = .error fault → Sifts s (place + 1) rest offers causes →
      Sifts s place (entry :: rest) offers
        (.condition (story.substitute s entry.condition) fault :: causes)

/-- A target at which a move ends, and the state it ends in. -/
inductive Stops (s : State) : Option NodeId → State → Prop
  | unlinked : Stops s none { s with text := "", offers := [], finished := true }
  | missing {id : NodeId} : id ∉ story.graph.ids →
      Stops s (some id) { s.entering id with finished := true }
  | terminal {id : NodeId} {n : Node α} :
      story.graph.node? id = some n → n.body = .terminal →
      Stops s (some id)
        { s.entering id with text := s.pendingPrefix, pendingPrefix := "", finished := true }
  | comment {id : NodeId} {n : Node α} {text : String} :
      story.graph.node? id = some n → n.body = .comment text →
      Stops s (some id)
        { s.entering id with
          errors := s.errors ++ [⟨some id, .commentEntered⟩], finished := true }
  | choice {id : NodeId} {n : Node α} {c : Choice} {offers : List Offer}
      {causes : List Cause} :
      story.graph.node? id = some n → n.body = .choice c →
      story.Sifts s 0 c.entries offers causes →
      Stops s (some id)
        { s.entering id with
          text := joinLines s.pendingPrefix (story.substitute s c.prompt), pendingPrefix := ""
          offers, errors := s.errors ++ causes.map (⟨some id, ·⟩) }
  | shown {id : NodeId} {n : Node α} {e : Exec} {storage : Storage}
      {faults : List Script.LineFault} :
      story.graph.node? id = some n → n.body = .exec e →
      Script.run (story.substitute s e.script) s.storage = (storage, faults) →
      story.substitute { s with storage } e.text ≠ "" →
      Stops s (some id)
        { s.entering id with
          storage, errors := s.errors ++ faults.map (⟨some id, .line ·⟩)
          text := joinLines s.pendingPrefix (story.substitute { s with storage } e.text)
          pendingPrefix := "" }
  | failed {id : NodeId} {n : Node α} {e : Exec} {storage : Storage}
      {faults : List Script.LineFault} :
      story.graph.node? id = some n → n.body = .exec e →
      Script.run (story.substitute s e.script) s.storage = (storage, faults) → faults ≠ [] →
      story.substitute { s with storage } e.text = "" →
      Stops s (some id)
        { s.entering id with
          storage, errors := s.errors ++ faults.map (⟨some id, .line ·⟩) }
  | faulty {id : NodeId} {n : Node α} {b : Switch} {before after : List SwitchCase}
      {c : SwitchCase} {fault : Script.Fault} :
      story.graph.node? id = some n → n.body = .switch b → b.cases = before ++ c :: after →
      story.NoneHolds s before → story.verdict s c.condition = .error fault →
      Stops s (some id)
        { s.entering id with
          errors := s.errors ++
            [⟨some id, .condition (story.substitute s c.condition) fault⟩] }

/-- A number of nodes passed one after the other, from a target and a state on. -/
inductive Chain : Nat → Option NodeId → State → Option NodeId → State → Prop
  | here {t : Option NodeId} {s : State} : Chain 0 t s t s
  | pass {k : Nat} {id : NodeId} {t u : Option NodeId} {s s' s'' : State} :
      story.Passes s id t s' → Chain k t s' u s'' → Chain (k + 1) (some id) s u s''

/-- A move that may enter `bound` nodes. The bound matters only where a further node would be
entered: no link at all ends the move as it does before. -/
inductive Moves (bound : Nat) (t : Option NodeId) (s : State) : State → Prop
  | stops {k : Nat} {u : Option NodeId} {s' s'' : State} :
      story.Chain k t s u s' → k < bound ∨ k = bound ∧ u = none → story.Stops s' u s'' →
      Moves bound t s s''
  | exhausted {id : NodeId} {s' : State} :
      story.Chain bound t s (some id) s' →
      Moves bound t s
        { s' with text := "", offers := []
                  errors := s'.errors ++ [⟨some id, .transitionLimit⟩] }

variable {story}

/-- A passed node lengthens a move by one. -/
theorem Passes.moves {bound : Nat} {id : NodeId} {t : Option NodeId} {s s' s'' : State}
    (hp : story.Passes s id t s') (hm : story.Moves bound t s' s'') :
    story.Moves (bound + 1) (some id) s s'' := by
  cases hm with
  | stops hc hk hs =>
    refine .stops (.pass hp hc) ?_ hs
    rcases hk with hlt | ⟨rfl, hu⟩
    · exact .inl (by omega)
    · exact .inr ⟨rfl, hu⟩
  | exhausted hc => exact .exhausted (.pass hp hc)

/-- What no passed node changes, a chain does not change. -/
theorem Chain.keeps {β : Type} {f : State → β}
    (hf : ∀ {id : NodeId} {t : Option NodeId} {s s' : State}, story.Passes s id t s' → f s' = f s)
    {k : Nat} {t u : Option NodeId} {s s' : State} (h : story.Chain k t s u s') : f s' = f s := by
  induction h with
  | here => rfl
  | pass hp _ ih => exact ih.trans (hf hp)

end Story

end EventGraph
