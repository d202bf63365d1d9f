import EventGraph.Proofs.Playback.Call
import EventGraph.Proofs.Playback.Path

/-!
# The limit of a move

A move that runs out of nodes to enter has passed more nodes than a smaller graph has, so it
has gone round in a loop. Where executed nodes and switches make no loop, the limit is never
met.
-/

namespace EventGraph.Story

open Playback

variable {α : Type} {story : Story α} {s s' : State} {e : Error}

/-! ### Errors of a move -/

theorem Sifts.cause_ne {place : Nat} {entries : List ChoiceEntry} {offers : List Offer}
    {causes : List Cause} (h : story.Sifts s place entries offers causes) {cause : Cause}
    (hcause : cause ∈ causes) : cause ≠ .transitionLimit := by
  induction h with
  | nil => cases hcause
  | offered _ _ ih | hidden _ _ ih => exact ih hcause
  | faulty _ _ ih =>
    rcases List.mem_cons.mp hcause with rfl | hrest
    · exact Cause.noConfusion
    · exact ih hrest

theorem cause_ne_of_mem_map_line {id : Option NodeId} {faults : List Script.LineFault}
    (he : e ∈ faults.map (⟨id, .line ·⟩)) : e.cause ≠ .transitionLimit := by
  obtain ⟨fault, _, rfl⟩ := List.mem_map.mp he
  exact Cause.noConfusion

/-- Where a chain of passed nodes stops, no error tells of the limit. -/
theorem Stops.cause_ne {t : Option NodeId} (h : story.Stops s t s') (hs : s.errors = [])
    (he : e ∈ s'.errors) : e.cause ≠ .transitionLimit := by
  cases h with
  | unlinked | missing | terminal =>
    change e ∈ s.errors at he
    rw [hs] at he
    cases he
  | comment | faulty =>
    rw [hs, List.nil_append, List.mem_singleton] at he
    rw [he]
    exact Cause.noConfusion
  | choice _ _ hsift =>
    rw [hs, List.nil_append] at he
    obtain ⟨cause, hcause, rfl⟩ := List.mem_map.mp he
    exact hsift.cause_ne hcause
  | shown | failed =>
    rw [hs, List.nil_append] at he
    exact cause_ne_of_mem_map_line he

/-- A move that is stopped by a limit above the number of nodes went round in a loop. -/
theorem Moves.loops {bound : Nat} {t : Option NodeId} (h : story.Moves bound t s s')
    (hsize : story.graph.nodes.length < bound) (hs : s.errors = []) (he : e ∈ s'.errors)
    (hlimit : e.cause = .transitionLimit) : story.graph.Loops := by
  cases h with
  | stops hc _ hstop => exact absurd hlimit (hstop.cause_ne (hc.errors_eq.trans hs) he)
  | exhausted hc =>
    obtain ⟨path, hlength, hids, _, hchain⟩ := hc.path
    exact Graph.loops_of_isChain hchain.left_of_append hids (hlength ▸ hsize)

/-! ### Errors of a call -/

theorem advance_loops (hsize : story.graph.nodes.length < transitionLimit) {t : Option NodeId}
    (he : e ∈ (story.advance t s).errors) (hnew : e ∉ s.errors)
    (hlimit : e.cause = .transitionLimit) : story.graph.Loops := by
  by_cases hs : s.errors = []
  · exact (moves_advance hs t).loops hsize hs he hlimit
  · rw [advance_of_isStuck (by simpa [State.isStuck] using hs)] at he
    exact absurd he hnew

/-- Preparing a pick records no error that tells of the limit. -/
theorem not_mem_prepare_errors {picked : Offer} (hnew : e ∉ s.errors)
    (hlimit : e.cause = .transitionLimit) : e ∉ (story.prepare s picked).errors := by
  rcases prepare_cases story s picked with h | ⟨id, _, _, faults, _, _, _, h⟩
  · rwa [h]
  · rw [h]
    intro he
    rcases List.mem_append.mp he with hold | hline
    · exact hnew hold
    · exact cause_ne_of_mem_map_line hline hlimit

theorem take_loops (hsize : story.graph.nodes.length < transitionLimit) {t : Turn}
    (he : e ∈ (story.take s t).errors) (hnew : e ∉ s.errors)
    (hlimit : e.cause = .transitionLimit) : story.graph.Loops := by
  rcases take_cases story s t with h | ⟨_, exec, _, _, _, _, h⟩ | ⟨picked, _, _, h⟩
  · rw [h] at he
    exact absurd he hnew
  · rw [h] at he
    exact advance_loops hsize he hnew hlimit
  · rw [h] at he
    exact advance_loops hsize he (not_mem_prepare_errors hnew hlimit) hlimit

/-- A call that meets the limit shows that the graph has a loop. -/
theorem perform_loops (hsize : story.graph.nodes.length < transitionLimit) {call : Call}
    (he : e ∈ (story.perform s call).errors) (hnew : e ∉ s.errors)
    (hlimit : e.cause = .transitionLimit) : story.graph.Loops := by
  cases call with
  | start => exact advance_loops hsize he hnew hlimit
  | advance target => exact advance_loops hsize he hnew hlimit
  | turn t => exact take_loops hsize he hnew hlimit
  | reset storage => cases he

/-- No error tells of the limit. -/
def WithinLimit (s : State) : Prop := ∀ e ∈ s.errors, e.cause ≠ .transitionLimit

theorem withinLimit_perform (hsize : story.graph.nodes.length < transitionLimit)
    (hloops : ¬ story.graph.Loops) (call : Call) (hs : WithinLimit s) :
    WithinLimit (story.perform s call) := by
  intro e he hlimit
  exact hloops (perform_loops hsize he (fun hold => hs e hold hlimit) hlimit)

/-- **On a graph with fewer nodes than a move may enter, a call records that the limit was met
only if executed nodes and switches make a loop. Without a loop no run ever records it.** -/
theorem transitionLimit_only_in_loops (story : Story α)
    (hsize : story.graph.nodes.length < transitionLimit) :
    (∀ (s : State) (call : Call), ∀ e ∈ (story.perform s call).errors, e ∉ s.errors →
      e.cause = .transitionLimit → story.graph.Loops) ∧
    (¬ story.graph.Loops → ∀ (storage : Storage) (calls : List Call),
      ∀ e ∈ (story.run (.fresh storage) calls).errors, e.cause ≠ .transitionLimit) := by
  refine ⟨fun _ _ _ => perform_loops hsize, fun hloops storage calls => ?_⟩
  have hfresh : WithinLimit (.fresh storage) := fun _ he => absurd he List.not_mem_nil
  exact run_invariant (fun _ call => withinLimit_perform hsize hloops call) hfresh calls

/-- A carousel: a switch without cases that falls back to itself. -/
def carousel : Story Float32 where
  graph := { nodes := [.create "root" (.switch { fallback := some "root" })] }

/-- The limit is met on the carousel, which goes from its one node back to it. -/
theorem transitionLimit_on_carousel : carousel.graph.nodes.length < transitionLimit ∧
    (carousel.perform (.fresh {}) .start).errors = [⟨some "root", .transitionLimit⟩] ∧
    carousel.graph.Loops := by
  have hsize : carousel.graph.nodes.length < transitionLimit := by decide
  have herrors : (carousel.perform (.fresh {}) .start).errors =
      [⟨some "root", .transitionLimit⟩] := by decide +kernel
  refine ⟨hsize, herrors, (transitionLimit_only_in_loops carousel hsize).1 (.fresh {}) .start
    ⟨some "root", .transitionLimit⟩ ?_ List.not_mem_nil rfl⟩
  rw [herrors]
  exact List.mem_singleton_self _

end EventGraph.Story
