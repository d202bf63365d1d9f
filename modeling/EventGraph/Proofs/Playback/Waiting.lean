import EventGraph.Proofs.Playback.Call

/-!
# Waiting for the player

A play-through that was set going and is neither over nor stuck waits on a node of the graph:
on a text that is to be read, or on the entries of a choice whose conditions hold as things
stand.
-/

namespace EventGraph

namespace Playback

/-- Whether a play-through is under way after a call. -/
def Call.begins (begun : Bool) : Call → Bool
  | start | advance _ => true
  | turn _ => begun
  | reset _ => false

/-- The play-through was started or moved since it was last reset. -/
def begun (calls : List Call) : Bool := calls.foldl Call.begins false

theorem joinLines_ne_empty {first second : String} (h : second ≠ "") :
    joinLines first second ≠ "" := by
  unfold joinLines
  by_cases hfirst : first = "" <;> simp [hfirst, h, String.intercalate_cons_cons]

end Playback

namespace Story

open Playback

variable {α : Type} (story : Story α)

/-- A condition can be evaluated, and it is true. -/
def Holds (s : State) (source : String) : Prop := story.verdict s source = .ok true

instance (s : State) (source : String) : Decidable (story.Holds s source) :=
  decidable_of_iff ((story.verdict s source).toOption = some true) <| by
    unfold Holds
    cases story.verdict s source <;> simp [Except.toOption]

/-- The entries that hold, in order, with the places they have when the first has `place`. -/
def standing (s : State) (place : Nat) (entries : List ChoiceEntry) : List Offer :=
  ((entries.zipIdx place).filter fun (entry, _) => story.Holds s entry.condition).map
    fun (entry, index) => ⟨index, story.substitute s entry.text, entry.next⟩

/-- What a play-through waits on. Nothing is left to be put before a text. -/
inductive Waits (s : State) : Prop
  | text {id : NodeId} {n : Node α} {e : Exec} :
      s.current = some id → story.graph.node? id = some n → n.body = .exec e →
      s.text ≠ "" → s.offers = [] → s.pendingPrefix = "" → Waits s
  | choice {id : NodeId} {n : Node α} {c : Choice} :
      s.current = some id → story.graph.node? id = some n → n.body = .choice c →
      s.offers = story.standing s 0 c.entries → s.pendingPrefix = "" → Waits s

/-- The play-through waits unless it is over or stuck. -/
def Settled (s : State) : Prop := s.isStuck = false → s.finished = false → story.Waits s

variable {story} {s s' : State}

/-! ### Moves -/

theorem Sifts.offers_eq_standing {place : Nat} {entries : List ChoiceEntry}
    {offers : List Offer} {causes : List Cause}
    (h : story.Sifts s place entries offers causes) :
    offers = story.standing s place entries := by
  unfold standing
  induction h with
  | nil => rfl
  | offered hv _ ih => simp [Holds, hv, ih]
  | hidden hv _ ih | faulty hv _ ih => simp [Holds, hv, ih]

theorem Stops.settled {t : Option NodeId} (h : story.Stops s t s') : story.Settled s' := by
  intro hfree hrunning
  cases h with
  | unlinked | missing | terminal | comment => cases hrunning
  | choice hn hb hsift => exact .choice rfl hn hb hsift.offers_eq_standing rfl
  | shown hn hb _ htext => exact .text rfl hn hb (joinLines_ne_empty htext) rfl rfl
  | failed _ _ _ hfaults => simp [State.isStuck, hfaults] at hfree
  | faulty => simp [State.isStuck] at hfree

theorem Moves.settled {bound : Nat} {t : Option NodeId} (h : story.Moves bound t s s') :
    story.Settled s' := by
  cases h with
  | stops _ _ hstop => exact hstop.settled
  | exhausted =>
    intro hfree
    simp [State.isStuck] at hfree

/-- However a play-through was before, it is settled once it has been moved. -/
theorem settled_advance (story : Story α) (s : State) (t : Option NodeId) :
    story.Settled (story.advance t s) := by
  by_cases hs : s.errors = []
  · exact (moves_advance hs t).settled
  · have hstuck : s.isStuck = true := by simpa [State.isStuck] using hs
    rw [advance_of_isStuck hstuck]
    exact fun hfree => absurd (hstuck.symm.trans hfree) Bool.noConfusion

/-! ### Calls -/

theorem settled_take (t : Turn) (hs : story.Settled s) : story.Settled (story.take s t) := by
  rcases take_cases story s t with h | ⟨_, e, _, _, _, _, h⟩ | ⟨picked, _, _, h⟩
  · rwa [h]
  · rw [h]
    exact settled_advance story s e.next
  · rw [h]
    exact settled_advance story _ picked.next

theorem settled_perform {begun : Bool} {call : Call} (hs : begun = true → story.Settled s)
    (hcall : call.begins begun = true) : story.Settled (story.perform s call) := by
  cases call with
  | start => exact settled_advance story s story.graph.startId?
  | advance target => exact settled_advance story s target
  | turn t => exact settled_take t (hs hcall)
  | reset storage => cases hcall

theorem settled_run {calls : List Call} {begun : Bool} (hs : begun = true → story.Settled s)
    (hcalls : calls.foldl Call.begins begun = true) : story.Settled (story.run s calls) := by
  induction calls generalizing s begun with
  | nil => exact hs hcalls
  | cons call rest ih => exact ih (settled_perform hs) hcalls

/-- **A play-through that is under way, not over and not stuck waits on a text of a node or
on the entries of a choice that hold.** -/
theorem run_waits (story : Story α) (storage : Storage) {calls : List Call}
    (hbegun : begun calls = true) (hfree : (story.run (.fresh storage) calls).isStuck = false)
    (hrunning : (story.run (.fresh storage) calls).finished = false) :
    story.Waits (story.run (.fresh storage) calls) :=
  settled_run (fun hnever => absurd hnever Bool.false_ne_true) hbegun hfree hrunning

/-- A gate for which a key is found. Knocking is no use to those who have it. -/
def gate : Story Float32 where
  graph := { nodes := [
    .create "root" (.exec { script := "SET_STR(key, brass)", next := some "gate" }),
    .create "gate" (.choice { prompt := "A gate.", entries := [
      { text := "Knock", condition := "ISNOT(key)", next := some "gate" },
      { text := "Unlock with the @key key", condition := "IS(key)", prefixText := "Click." },
      { text := "Wait @while", next := some "gate" }] })] }
  bindings := [("key", "wooden"), ("while", "an hour")]

/-- Waiting at the gate comes back to it, with the last two entries on offer. The key that was found
counts, whatever the variable of that name says. -/
theorem run_waits_gate :
    let calls : List Call := [.start, .turn .proceed, .turn (.choose 1)]
    let s := gate.run (.fresh {}) calls
    begun calls = true ∧ s.isStuck = false ∧ s.finished = false ∧ gate.Waits s ∧
      s.offers = [⟨1, "Unlock with the brass key", none⟩,
        ⟨2, "Wait an hour", some "gate"⟩] := by
  intro calls s
  have hbegun : begun calls = true := rfl
  have hfree : s.isStuck = false := by decide +kernel
  have hrunning : s.finished = false := by decide +kernel
  have hoffers : s.offers = [⟨1, "Unlock with the brass key", none⟩,
      ⟨2, "Wait an hour", some "gate"⟩] := by
    decide +kernel
  exact ⟨hbegun, hfree, hrunning, run_waits gate {} hbegun hfree hrunning, hoffers⟩

end Story

end EventGraph
