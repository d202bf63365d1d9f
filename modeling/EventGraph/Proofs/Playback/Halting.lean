import EventGraph.Proofs.Playback.Call

/-!
# Halting on errors

The errors of a play-through all blame one node, which is the one it is on unless a move ran
out of nodes to enter. Once there is an error, no call but a reset changes anything.
-/

namespace EventGraph.Story

open Playback

variable {α : Type} {story : Story α} {s s' : State}

/-- All errors blame one node, the current one but for an exhausted move. -/
def Blames (s : State) (id : NodeId) : Prop :=
  (∀ e ∈ s.errors, e.node = some id) ∧
    (s.current = some id ∨ s.errors = [⟨some id, .transitionLimit⟩])

theorem Stops.blames {t : Option NodeId} (h : story.Stops s t s') (hs : s.errors = [])
    (hstuck : s'.errors ≠ []) : ∃ id, Blames s' id := by
  cases h with
  | unlinked | missing | terminal => exact absurd hs hstuck
  | @comment id | @choice id | @shown id | @failed id | @faulty id =>
    refine ⟨id, ?_, .inl rfl⟩
    simp [hs]

/-- A move that records errors blames one node for them. -/
theorem Moves.blames {bound : Nat} {t : Option NodeId} (h : story.Moves bound t s s')
    (hs : s.errors = []) (hstuck : s'.errors ≠ []) : ∃ id, Blames s' id := by
  cases h with
  | stops hc _ hstop => exact hstop.blames (hc.errors_eq.trans hs) hstuck
  | @exhausted id s₁ hc =>
    have hs₁ : s₁.errors = [] := hc.errors_eq.trans hs
    refine ⟨id, ?_, .inr ?_⟩ <;> simp [hs₁]

/-- Where errors are recorded, one node is blamed. -/
def Attributed (s : State) : Prop := s.errors ≠ [] → ∃ id, Blames s id

theorem attributed_advance (t : Option NodeId) (hs : Attributed s) :
    Attributed (story.advance t s) := by
  by_cases herrors : s.errors = []
  · exact (moves_advance herrors t).blames herrors
  · rwa [advance_of_isStuck (by simpa [State.isStuck] using herrors)]

theorem attributed_prepare (story : Story α) (picked : Offer) (hs : s.errors = []) :
    Attributed (story.prepare s picked) := by
  intro hstuck
  rcases prepare_cases story s picked with h | ⟨id, _, _, faults, _, hid, _, h⟩
  · rw [h] at hstuck
    exact absurd hs hstuck
  · rw [h]
    refine ⟨id, ?_, .inl hid⟩
    simp [hs]

theorem attributed_take (t : Turn) (hs : Attributed s) : Attributed (story.take s t) := by
  rcases take_cases story s t with h | ⟨_, e, _, _, _, _, h⟩ | ⟨picked, _, herrors, h⟩
  · rwa [h]
  · rw [h]
    exact attributed_advance e.next hs
  · rw [h]
    exact attributed_advance picked.next (attributed_prepare story picked herrors)

theorem attributed_perform (call : Call) (hs : Attributed s) :
    Attributed (story.perform s call) := by
  cases call with
  | start => exact attributed_advance story.graph.startId? hs
  | advance target => exact attributed_advance target hs
  | turn t => exact attributed_take t hs
  | reset storage => exact fun herrors => absurd rfl herrors

theorem attributed_run (story : Story α) (storage : Storage) (calls : List Call) :
    Attributed (story.run (.fresh storage) calls) :=
  run_invariant (fun _ call => attributed_perform call) (fun herrors => absurd rfl herrors) calls

/-- No call but a reset changes a stuck play-through. -/
theorem run_of_isStuck (hs : s.isStuck = true) {calls : List Call}
    (hcalls : ∀ storage, .reset storage ∉ calls) : story.run s calls = s := by
  induction calls with
  | nil => rfl
  | cons call rest ih =>
    have hcall : story.perform s call = s := by
      cases call with
      | start => exact start_of_isStuck hs
      | advance target => exact advance_of_isStuck hs target
      | turn t => exact take_of_isStuck hs t
      | reset storage => exact absurd List.mem_cons_self (hcalls storage)
    have hrest := ih fun storage hmem => hcalls storage (List.mem_cons_of_mem call hmem)
    simpa only [run, List.foldl_cons, hcall] using hrest

/-- **A play-through with errors blames one node for all of them and stays as it is until a
reset, whatever is called; a pick is refused.** -/
theorem run_halts (story : Story α) (storage : Storage) (calls : List Call)
    (herrors : (story.run (.fresh storage) calls).errors ≠ []) :
    let s := story.run (.fresh storage) calls
    (∃ id, (∀ e ∈ s.errors, e.node = some id) ∧
      (s.current = some id ∨ s.errors = [⟨some id, .transitionLimit⟩])) ∧
    story.start s = s ∧ (∀ target, story.advance target s = s) ∧ story.proceed s = s ∧
    (∀ position, story.choose position s = .error .stuck) ∧
    ∀ later : List Call, (∀ storage, .reset storage ∉ later) → story.run s later = s := by
  intro s
  have hs : s.isStuck = true := by simpa [State.isStuck] using herrors
  exact ⟨attributed_run story storage calls herrors, start_of_isStuck hs,
    advance_of_isStuck hs, proceed_of_isStuck hs, choose_of_isStuck hs,
    fun _ hlater => run_of_isStuck hs hlater⟩

/-- A choice two of whose conditions cannot be evaluated. -/
def riddle : Story Float32 where
  graph := { nodes := [.create "root" (.choice { prompt := "Well?", entries := [
    { text := "Guess", condition := "KNOWS(answer)" },
    { text := "Give up", next := some "root" },
    { text := "Cheat", condition := "IS(book, page)" }] })] }

/-- Both errors are recorded, and the one entry on offer cannot be picked any more. -/
theorem run_halts_riddle :
    (riddle.run (.fresh {}) [.start]).errors ≠ [] ∧
      (∃ id, (riddle.run (.fresh {}) [.start]).current = some id ∧
        ∀ e ∈ (riddle.run (.fresh {}) [.start]).errors, e.node = some id) ∧
      riddle.choose 0 (riddle.run (.fresh {}) [.start]) = .error .stuck := by
  have herrors : (riddle.run (.fresh {}) [.start]).errors ≠ [] := by decide +kernel
  obtain ⟨⟨id, hblame, hnode⟩, _, _, _, hchoose, _⟩ := run_halts riddle {} [.start] herrors
  have hlength : (riddle.run (.fresh {}) [.start]).errors.length = 2 := by decide +kernel
  refine ⟨herrors, ⟨id, hnode.resolve_right ?_, hblame⟩, hchoose 0⟩
  intro hsingle
  rw [hsingle] at hlength
  cases hlength

end EventGraph.Story
