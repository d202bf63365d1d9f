import EventGraph.Proofs.Playback.Walk

/-!
# Calls

The calls by which a story is played, runs of them, and what each call can do: it changes
nothing, or it is one move, for a pick after the script of the picked entry.
-/

namespace EventGraph

namespace Playback

/-- What a player does. -/
inductive Turn where
  | proceed
  | choose (position : Nat)
  deriving Repr, DecidableEq

inductive Call where
  | start
  | advance (target : Option NodeId)
  | turn (t : Turn)
  | reset (storage : Storage)

/-- A play-through that has not begun. -/
def State.fresh (storage : Storage) : State := { storage }

end Playback

namespace Story

open Playback

variable {α : Type} (story : Story α)

/-- A refused pick changes nothing. -/
def take (s : State) : Turn → State
  | .proceed => story.proceed s
  | .choose position => match story.choose position s with
    | .ok s' => s'
    | .error _ => s

def perform (s : State) : Call → State
  | .start => story.start s
  | .advance target => story.advance target s
  | .turn t => story.take s t
  | .reset storage => .fresh storage

def run (s : State) (calls : List Call) : State := calls.foldl story.perform s

/-- Starts a story and takes turns. -/
def play (storage : Storage) (turns : List Turn) : State :=
  turns.foldl story.take (story.start (.fresh storage))

/-- The state in which a picked offer is followed: the script of its entry has been run and
its text is kept for the next one shown. -/
def prepare (s : State) (picked : Offer) : State :=
  match story.currentEntry? s picked.index with
  | some (id, entry) =>
    let s := story.runScript s id entry.script
    { s with pendingPrefix := story.substitute s entry.prefixText }
  | none => s

variable {story} {s s' : State}

/-! ### A stuck play-through -/

theorem advance_of_isStuck (hs : s.isStuck = true) (t : Option NodeId) :
    story.advance t s = s := walk_of_isStuck hs transitionLimit t

theorem start_of_isStuck (hs : s.isStuck = true) : story.start s = s :=
  advance_of_isStuck hs story.graph.startId?

theorem proceed_of_isStuck (hs : s.isStuck = true) : story.proceed s = s := by
  unfold proceed
  split
  · rfl
  · split
    · exact advance_of_isStuck hs _
    · rfl

theorem choose_of_isStuck (hs : s.isStuck = true) (position : Nat) :
    story.choose position s = .error .stuck := by
  simp only [choose, hs, ↓reduceIte]

theorem take_of_isStuck (hs : s.isStuck = true) (t : Turn) : story.take s t = s := by
  cases t with
  | proceed => exact proceed_of_isStuck hs
  | choose position => simp only [take, choose_of_isStuck hs position]

/-! ### What a call does -/

theorem proceed_cases (story : Story α) (s : State) :
    story.proceed s = s ∨ ∃ n e, story.currentNode? s = some n ∧ n.body = .exec e ∧
      s.finished = false ∧ s.offers = [] ∧ story.proceed s = story.advance e.next s := by
  unfold proceed
  split
  · exact .inl rfl
  · rename_i hidle
    simp only [Bool.or_eq_true, Bool.not_eq_true', not_or, Bool.not_eq_true,
      Bool.not_eq_false, List.isEmpty_iff] at hidle
    split
    · rename_i e he
      obtain ⟨n, hn, hb⟩ := Option.map_eq_some_iff.mp he
      exact .inr ⟨n, e, hn, hb, hidle.1, hidle.2, rfl⟩
    · exact .inl rfl

/-- An accepted pick is of an offer, which is prepared and then followed. -/
theorem choose_eq_ok {position : Nat} (h : story.choose position s = .ok s') :
    s.errors = [] ∧ ∃ picked, s.offers[position]? = some picked ∧
      s' = story.advance picked.next (story.prepare s picked) := by
  unfold choose at h
  split at h
  · cases h
  · rename_i hs
    split at h
    · cases h
    · rename_i picked hpicked
      refine ⟨by simpa [State.isStuck] using hs, picked, hpicked, ?_⟩
      exact (Except.ok.inj h).symm

theorem take_cases (story : Story α) (s : State) (t : Turn) :
    story.take s t = s ∨
      (∃ n e, story.currentNode? s = some n ∧ n.body = .exec e ∧ s.finished = false ∧
        s.offers = [] ∧ story.take s t = story.advance e.next s) ∨
      ∃ picked ∈ s.offers, s.errors = [] ∧
        story.take s t = story.advance picked.next (story.prepare s picked) := by
  cases t with
  | proceed =>
    rcases proceed_cases story s with h | h
    · exact .inl h
    · exact .inr (.inl h)
  | choose position =>
    cases h : story.choose position s with
    | error r => exact .inl (by simp only [take, h])
    | ok s' =>
      obtain ⟨hs, picked, hpicked, rfl⟩ := choose_eq_ok h
      exact .inr (.inr ⟨picked, List.mem_of_getElem? hpicked, hs, by simp only [take, h]⟩)

/-- What every call keeps holds after every run. -/
theorem run_invariant {Inv : State → Prop}
    (hcall : ∀ (s : State) (call : Call), Inv s → Inv (story.perform s call))
    (hs : Inv s) (calls : List Call) : Inv (story.run s calls) := by
  induction calls generalizing s with
  | nil => exact hs
  | cons call rest ih => exact ih (hcall s call hs)

/-! ### Preparing a pick -/

theorem currentEntry?_node {index : Nat} {id : NodeId} {entry : ChoiceEntry}
    (h : story.currentEntry? s index = some (id, entry)) : s.current = some id := by
  unfold currentEntry? at h
  split at h
  · rename_i n hn
    split at h
    · obtain ⟨current, hcurrent, hnode⟩ := Option.bind_eq_some_iff.mp hn
      obtain ⟨_, _, hid⟩ := Option.map_eq_some_iff.mp h
      rw [hcurrent, ← (Prod.mk.inj hid).1, Graph.id_of_node? hnode]
    · cases h
  · cases h

/-- Preparing a pick runs the script of the picked entry of the current choice and keeps its
text. It shows nothing else and moves nowhere. -/
theorem prepare_cases (story : Story α) (s : State) (picked : Offer) :
    story.prepare s picked = s ∨ ∃ id entry storage faults,
      story.currentEntry? s picked.index = some (id, entry) ∧ s.current = some id ∧
      Script.run (story.substitute s entry.script) s.storage = (storage, faults) ∧
      story.prepare s picked =
        { s with
          storage, errors := s.errors ++ faults.map (⟨some id, .line ·⟩)
          pendingPrefix := story.substitute { s with storage } entry.prefixText } := by
  unfold prepare
  split
  · rename_i id entry hentry
    rcases hrun : Script.run (story.substitute s entry.script) s.storage with ⟨storage, faults⟩
    refine .inr ⟨id, entry, storage, faults, hentry, currentEntry?_node hentry, hrun, ?_⟩
    rw [runScript_of_run id hrun]
    rfl
  · exact .inl rfl

end Story

end EventGraph
