import EventGraph.Proofs.Playback.Enter

/-!
# A walk follows the rules

Each rule of a move is what the walk does, and some rule applies at every target. So a move of
a state without errors ends exactly where the rules end it, also where the bound is met.
-/

namespace EventGraph.Story

open Playback

variable {α : Type} {story : Story α} {s s' : State}

theorem isStuck_eq_false (hs : s.errors = []) : s.isStuck = false := by
  simp [State.isStuck, hs]

theorem walk_of_isStuck (hs : s.isStuck = true) (bound : Nat) (t : Option NodeId) :
    story.walk bound t s = s := by
  unfold walk
  simp only [hs, ↓reduceIte]

theorem walk_none (hs : s.errors = []) (bound : Nat) :
    story.walk bound none s = { s with text := "", offers := [], finished := true } := by
  unfold walk
  simp only [isStuck_eq_false hs, Bool.false_eq_true, ↓reduceIte]
  rfl

theorem walk_zero (hs : s.errors = []) (id : NodeId) :
    story.walk 0 (some id) s =
      { s with text := "", offers := [], errors := s.errors ++ [⟨some id, .transitionLimit⟩] } := by
  unfold walk
  simp only [isStuck_eq_false hs, Bool.false_eq_true, ↓reduceIte]
  rfl

theorem walk_missing (hs : s.errors = []) {id : NodeId} (hid : id ∉ story.graph.ids)
    (bound : Nat) :
    story.walk (bound + 1) (some id) s = { s.entering id with finished := true } := by
  have hn := Graph.node?_eq_none_iff.mpr hid
  unfold walk
  simp only [isStuck_eq_false hs, Bool.false_eq_true, ↓reduceIte, hn]
  rfl

theorem walk_some (hs : s.errors = []) {id : NodeId} {n : Node α}
    (hn : story.graph.node? id = some n) (bound : Nat) :
    story.walk (bound + 1) (some id) s = match story.enter (s.entering id) n with
      | .stop s' => s'
      | .pass t s' => story.walk bound t s' := by
  rw [walk]
  simp only [isStuck_eq_false hs, Bool.false_eq_true, ↓reduceIte, hn]
  rfl

theorem Passes.walk {id : NodeId} {t : Option NodeId} (h : story.Passes s id t s')
    (hs : s.errors = []) (bound : Nat) :
    story.walk (bound + 1) (some id) s = story.walk bound t s' := by
  obtain ⟨n, hn, he⟩ := h.enter
  rw [walk_some hs hn, he]

theorem Stops.walk {t : Option NodeId} (h : story.Stops s t s') (hs : s.errors = [])
    (bound : Nat) : story.walk (bound + 1) t s = s' := by
  cases t with
  | none =>
    cases h with
    | unlinked => exact walk_none hs (bound + 1)
  | some id =>
    cases hn : story.graph.node? id with
    | none =>
      cases h with
      | missing hid => exact walk_missing hs hid bound
      | terminal hm | comment hm | choice hm | shown hm | failed hm | faulty hm =>
        rw [hn] at hm
        cases hm
    | some n =>
      rw [walk_some hs hn]
      rcases h.enter hn with he | ⟨t, he, hstuck⟩
      · rw [he]
      · rw [he]
        exact walk_of_isStuck hstuck bound t

theorem Passes.errors_eq {id : NodeId} {t : Option NodeId} (h : story.Passes s id t s') :
    s'.errors = s.errors := by
  cases h <;> rfl

theorem Chain.errors_eq {k : Nat} {t u : Option NodeId} (h : story.Chain k t s u s') :
    s'.errors = s.errors := h.keeps Passes.errors_eq

/-- The walk goes along a chain and has then as many nodes less to enter. -/
theorem Chain.walk {k : Nat} {t u : Option NodeId} (h : story.Chain k t s u s')
    (hs : s.errors = []) (bound : Nat) :
    story.walk (bound + k) t s = story.walk bound u s' := by
  induction h with
  | here => rfl
  | pass hp _ ih => exact (hp.walk hs _).trans (ih (hp.errors_eq.trans hs))

theorem Moves.walk {bound : Nat} {t : Option NodeId} (h : story.Moves bound t s s')
    (hs : s.errors = []) : story.walk bound t s = s' := by
  cases h with
  | @stops k u s₁ _ hc hk hstop =>
    have hs₁ : s₁.errors = [] := hc.errors_eq.trans hs
    rcases hk with hlt | ⟨rfl, rfl⟩
    · obtain ⟨left, rfl⟩ : ∃ left, bound = left + 1 + k := ⟨bound - k - 1, by omega⟩
      rw [hc.walk hs (left + 1), hstop.walk hs₁ left]
    -- With no node left to enter, only the absence of a link still ends the move.
    · have hw := hc.walk hs 0
      rw [Nat.zero_add] at hw
      cases hstop
      rw [hw, walk_none hs₁]
  | @exhausted id s₁ hc =>
    have hw := hc.walk hs 0
    rw [Nat.zero_add] at hw
    rw [hw, walk_zero (hc.errors_eq.trans hs)]

/-- Some rule applies at every target, so a move always ends. -/
theorem exists_moves (story : Story α) (bound : Nat) (t : Option NodeId) (s : State) :
    ∃ s', story.Moves bound t s s' := by
  induction bound generalizing t s with
  | zero =>
    cases t with
    | none => exact ⟨_, .stops .here (.inr ⟨rfl, rfl⟩) .unlinked⟩
    | some id => exact ⟨_, .exhausted .here⟩
  | succ bound ih =>
    have hk {u : Option NodeId} : 0 < bound + 1 ∨ 0 = bound + 1 ∧ u = none :=
      .inl (Nat.succ_pos bound)
    cases t with
    | none => exact ⟨_, .stops .here hk .unlinked⟩
    | some id =>
      cases hn : story.graph.node? id with
      | none => exact ⟨_, .stops .here hk (.missing (Graph.node?_eq_none_iff.mp hn))⟩
      | some n =>
        rcases passes_or_stops s hn with ⟨u, s₁, hp⟩ | ⟨s', hstop⟩
        · obtain ⟨s', hm⟩ := ih u s₁
          exact ⟨s', hp.moves hm⟩
        · exact ⟨s', .stops .here hk hstop⟩

theorem moves_walk (hs : s.errors = []) (bound : Nat) (t : Option NodeId) :
    story.Moves bound t s (story.walk bound t s) := by
  obtain ⟨s', hm⟩ := exists_moves story bound t s
  rwa [hm.walk hs]

/-- What a move of a state without errors does, by the rules. -/
theorem moves_advance (hs : s.errors = []) (t : Option NodeId) :
    story.Moves transitionLimit t s (story.advance t s) := moves_walk hs transitionLimit t

/-- **Moving to a target ends in a state exactly when the rules of a move lead there.** -/
theorem advance_eq_iff_moves (story : Story α) (hs : s.errors = []) (t : Option NodeId) :
    story.advance t s = s' ↔ story.Moves transitionLimit t s s' := by
  constructor
  · rintro rfl
    exact moves_advance hs t
  · intro hm
    exact hm.walk hs

/-- Whether a meeting is still to be noted, or over. -/
def fork : Switch := { cases := [
  { condition := "ISNOT(met)", next := some "root" },
  { condition := "EQ(@met, true)", next := some "end" }] }

/-- A meeting that is noted, tested for and over. What is noted is named by a variable; what is
stored under that name counts before the variable of that name. -/
def meeting : Story Float32 where
  graph := { nodes := [
    .create "root" (.exec { script := "SET_BOOL(@noted, true)", next := some "fork" }),
    .create "fork" (.switch fork), .create "end" .terminal] }
  bindings := [("noted", "met"), ("met", "never")]

/-- Two nodes are passed before the meeting ends, and the text kept so far is shown there. -/
theorem advance_meeting : ({ pendingPrefix := "You nod." } : State).errors = [] ∧
    meeting.advance (some "root") { pendingPrefix := "You nod." } =
      { storage := ⟨[("met", .bool true)]⟩, current := some "end", text := "You nod."
        finished := true } := by
  have hrun : Script.run (meeting.substitute { pendingPrefix := "You nod." }
      "SET_BOOL(@noted, true)") {} = (⟨[("met", .bool true)]⟩, []) := by
    have hscript : meeting.substitute { pendingPrefix := "You nod." } "SET_BOOL(@noted, true)" =
        "SET_BOOL(met, true)" := by decide +kernel
    rw [hscript]
    rfl
  let s : State := {
    storage := ⟨[("met", .bool true)]⟩, current := some "root", pendingPrefix := "You nod." }
  have hfirst : meeting.verdict s "ISNOT(met)" = .ok false := by
    have hsource : meeting.substitute s "ISNOT(met)" = "ISNOT(met)" := by decide +kernel
    rw [verdict, hsource]
    rfl
  have hsecond : meeting.verdict s "EQ(@met, true)" = .ok true := by
    have hsource : meeting.substitute s "EQ(@met, true)" = "EQ(true, true)" := by decide +kernel
    rw [verdict, hsource]
    decide +kernel
  have hroot : meeting.Passes { pendingPrefix := "You nod." } "root" (some "fork") s :=
    .exec (e := { script := "SET_BOOL(@noted, true)", next := some "fork" }) rfl rfl hrun
      (by decide +kernel)
  have hnone : meeting.NoneHolds s [{ condition := "ISNOT(met)", next := some "root" }] := by
    intro c hc
    rw [List.mem_singleton.mp hc]
    exact hfirst
  have hcases : fork.cases = [{ condition := "ISNOT(met)", next := some "root" }] ++
      { condition := "EQ(@met, true)", next := some "end" } :: [] := rfl
  have hfork : meeting.Passes s "fork" (some "end") (s.entering "fork") :=
    .taken (b := fork) rfl rfl hcases hnone hsecond
  exact ⟨rfl, (advance_eq_iff_moves meeting rfl (some "root")).mpr
    (.stops (.pass hroot (.pass hfork .here)) (.inl (by decide)) (.terminal rfl rfl))⟩

end EventGraph.Story
