import EventGraph.Proofs.Playback.Waiting

/-!
# The text of a picked entry

A picked entry leaves its text to be put before the next one shown. The nodes that a move passes
show nothing, whatever their scripts do, so they leave it as it is; the node at which the move
stops shows it once, in front of its own text. A move that leads nowhere shows nothing.
-/

namespace EventGraph.Story

open Playback

variable {α : Type} (story : Story α)

/-- The text a node has to show, where there is one. A terminal node has an empty one. -/
def ownText? (s : State) : Body → Option String
  | .exec e => some (story.substitute s e.text)
  | .choice c => some (story.substitute s c.prompt)
  | .terminal => some ""
  | .switch _ | .comment _ => none

/-- What is shown where a move has stopped at a target: the text of the node there behind the one
that was kept, which is used up, or nothing if there is no node. -/
inductive ShowsBehind (first : String) (s : State) : Option NodeId → Prop
  | text {id : NodeId} {n : Node α} {own : String} :
      story.graph.node? id = some n → s.current = some id → story.ownText? s n.body = some own →
      s.text = joinLines first own → s.pendingPrefix = "" → ShowsBehind first s (some id)
  | nothing {target : Option NodeId} :
      (∀ id ∈ story.graph.ids, target ≠ some id) → s.finished = true → s.text = "" →
      ShowsBehind first s target

/-- An offer is that of an entry of the choice the play-through is on. -/
inductive OfferOf (s : State) (o : Offer) : NodeId → ChoiceEntry → Prop
  | intro {id : NodeId} {n : Node α} {c : Choice} {entry : ChoiceEntry} :
      s.current = some id → story.graph.node? id = some n → n.body = .choice c →
      c.entries[o.index]? = some entry → o.next = entry.next → OfferOf s o id entry

/-- Whatever is on offer is an entry of the choice the play-through is on. -/
def OffersEntries (s : State) : Prop := ∀ o ∈ s.offers, ∃ id entry, story.OfferOf s o id entry

variable {story} {s s' : State}

/-! ### What is kept on the way -/

theorem Passes.pendingPrefix_eq {id : NodeId} {t : Option NodeId} (h : story.Passes s id t s') :
    s'.pendingPrefix = s.pendingPrefix := by
  cases h <;> rfl

theorem Chain.pendingPrefix_eq {k : Nat} {t u : Option NodeId} (h : story.Chain k t s u s') :
    s'.pendingPrefix = s.pendingPrefix := h.keeps Passes.pendingPrefix_eq

theorem ownText?_of_exec {n : Node α} {e : Exec} (hb : n.body = .exec e) (s : State) :
    story.ownText? s n.body = some (story.substitute s e.text) := by
  rw [hb]
  rfl

theorem ownText?_of_choice {n : Node α} {c : Choice} (hb : n.body = .choice c) (s : State) :
    story.ownText? s n.body = some (story.substitute s c.prompt) := by
  rw [hb]
  rfl

theorem ownText?_of_terminal {n : Node α} (hb : n.body = .terminal) (s : State) :
    story.ownText? s n.body = some "" := by
  rw [hb]
  rfl

/-- Where a move stops without an error, the kept text is shown and used up. -/
theorem Stops.showsBehind {t : Option NodeId} (h : story.Stops s t s')
    (hfree : s'.isStuck = false) : story.ShowsBehind s.pendingPrefix s' t := by
  -- Only the storage decides what a text becomes, and a node shows its text after its script.
  have hstorage {s₁ s₂ : State} (heq : s₁.storage = s₂.storage) (first text : String) :
      joinLines first (story.substitute s₁ text) = joinLines first (story.substitute s₂ text) := by
    rw [substitute_congr heq]
  cases h with
  | unlinked =>
    have hnone : ∀ id ∈ story.graph.ids, (none : Option NodeId) ≠ some id := by simp
    exact .nothing hnone rfl rfl
  | @missing id hid =>
    have hother : ∀ known ∈ story.graph.ids, some id ≠ some known := by
      rintro known hknown heq
      exact hid (Option.some.inj heq ▸ hknown)
    exact .nothing hother rfl rfl
  | terminal hn hb =>
    exact .text hn rfl (ownText?_of_terminal hb _) (joinLines_empty _).symm rfl
  | choice hn hb => exact .text hn rfl (ownText?_of_choice hb _) (hstorage rfl _ _) rfl
  | shown hn hb => exact .text hn rfl (ownText?_of_exec hb _) (hstorage rfl _ _) rfl
  | comment => simp [State.isStuck] at hfree
  | failed _ _ _ hfaults => simp [State.isStuck, hfaults] at hfree
  | faulty => simp [State.isStuck] at hfree

/-- A move that ends without an error has stopped at a target after passing some nodes. -/
theorem Moves.showsBehind {bound : Nat} {t : Option NodeId} (h : story.Moves bound t s s')
    (hfree : s'.isStuck = false) :
    ∃ k target last, story.Chain k t s target last ∧ story.Stops last target s' ∧
      story.ShowsBehind s.pendingPrefix s' target := by
  cases h with
  | @stops k target last _ hchain _ hstop =>
    have hshows := hstop.showsBehind hfree
    rw [hchain.pendingPrefix_eq] at hshows
    exact ⟨k, target, last, hchain, hstop, hshows⟩
  | exhausted => simp [State.isStuck] at hfree

/-! ### What is on offer -/

theorem exists_entry_of_mem_standing {entries : List ChoiceEntry} {o : Offer}
    (h : o ∈ story.standing s 0 entries) :
    ∃ entry, entries[o.index]? = some entry ∧ o.next = entry.next := by
  obtain ⟨⟨entry, index⟩, hmem, rfl⟩ := List.mem_map.mp h
  have hplace := List.mem_zipIdx_iff_getElem?.mp (List.mem_filter.mp hmem).1
  exact ⟨entry, hplace, rfl⟩

theorem OffersEntries.ofNone (h : s.offers = []) : story.OffersEntries s := by
  intro o ho
  rw [h] at ho
  cases ho

/-- The offers of a state stay those of its entries while it stays on its node. -/
theorem OffersEntries.congr (h : story.OffersEntries s) (hoffers : s'.offers = s.offers)
    (hcurrent : s'.current = s.current) : story.OffersEntries s' := by
  intro o ho
  rw [hoffers] at ho
  obtain ⟨id, entry, hid, hn, hb, hentry, hnext⟩ := h o ho
  exact ⟨id, entry, .intro (hcurrent.trans hid) hn hb hentry hnext⟩

theorem Stops.offersEntries {t : Option NodeId} (h : story.Stops s t s') :
    story.OffersEntries s' := by
  cases h with
  | @choice id n c offers causes hn hb hsift =>
    intro o ho
    have hstanding : o ∈ story.standing s 0 c.entries := hsift.offers_eq_standing ▸ ho
    obtain ⟨entry, hentry, hnext⟩ := exists_entry_of_mem_standing hstanding
    exact ⟨id, entry, .intro rfl hn hb hentry hnext⟩
  | unlinked | missing | terminal | comment | shown | failed | faulty => exact .ofNone rfl

theorem Moves.offersEntries {bound : Nat} {t : Option NodeId} (h : story.Moves bound t s s') :
    story.OffersEntries s' := by
  cases h with
  | stops _ _ hstop => exact hstop.offersEntries
  | exhausted => exact .ofNone rfl

theorem offersEntries_advance (t : Option NodeId) (hs : story.OffersEntries s) :
    story.OffersEntries (story.advance t s) := by
  by_cases herrors : s.errors = []
  · exact (moves_advance herrors t).offersEntries
  · rwa [advance_of_isStuck (by simpa [State.isStuck] using herrors)]

theorem offersEntries_prepare (picked : Offer) (hs : story.OffersEntries s) :
    story.OffersEntries (story.prepare s picked) := by
  rcases prepare_cases story s picked with h | ⟨_, _, _, _, _, _, _, h⟩
  · rwa [h]
  · apply hs.congr <;> rw [h]

theorem offersEntries_perform (call : Call) (hs : story.OffersEntries s) :
    story.OffersEntries (story.perform s call) := by
  cases call with
  | start => exact offersEntries_advance story.graph.startId? hs
  | advance target => exact offersEntries_advance target hs
  | turn t =>
    show story.OffersEntries (story.take s t)
    rcases take_cases story s t with h | ⟨_, e, _, _, _, _, h⟩ | ⟨picked, _, _, h⟩
    · rwa [h]
    · rw [h]
      exact offersEntries_advance e.next hs
    · rw [h]
      exact offersEntries_advance picked.next (offersEntries_prepare picked hs)
  | reset storage => exact .ofNone rfl

theorem offersEntries_run (story : Story α) (storage : Storage) (calls : List Call) :
    story.OffersEntries (story.run (.fresh storage) calls) :=
  run_invariant (fun _ call => offersEntries_perform call) (.ofNone rfl) calls

/-! ### Picking -/

theorem OfferOf.currentEntry? {o : Offer} {id : NodeId} {entry : ChoiceEntry}
    (h : story.OfferOf s o id entry) : story.currentEntry? s o.index = some (id, entry) := by
  cases h with
  | intro hid hn hb hentry =>
    rename_i n c _
    have hnode : story.currentNode? s = some n := by
      rw [Story.currentNode?, hid]
      exact hn
    simp only [Story.currentEntry?, hnode, hb, hentry, Option.map_some, Graph.id_of_node? hn]

theorem OfferOf.next_eq {o : Offer} {id : NodeId} {entry : ChoiceEntry}
    (h : story.OfferOf s o id entry) : o.next = entry.next := by
  obtain ⟨-, -, -, -, hnext⟩ := h
  exact hnext

/-- Preparing an offer runs the script of its entry and then keeps the text of the entry. -/
theorem OfferOf.prepare {o : Offer} {id : NodeId} {entry : ChoiceEntry} {after : Storage}
    {faults : List Script.LineFault} (h : story.OfferOf s o id entry)
    (hrun : Script.run (story.substitute s entry.script) s.storage = (after, faults)) :
    story.prepare s o =
      { s with
        storage := after, errors := s.errors ++ faults.map (⟨some id, .line ·⟩)
        pendingPrefix := story.substitute { s with storage := after } entry.prefixText } := by
  simp only [Story.prepare, h.currentEntry?, runScript_of_run id hrun]
  rfl

/-- With a fault in the script of the entry, the play-through is stuck before it moves. -/
theorem OfferOf.faultless {o : Offer} {id : NodeId} {entry : ChoiceEntry} {after : Storage}
    {faults : List Script.LineFault} (h : story.OfferOf s o id entry)
    (hrun : Script.run (story.substitute s entry.script) s.storage = (after, faults))
    (hfree : (story.advance o.next (story.prepare s o)).isStuck = false) : faults = [] := by
  cases faults with
  | nil => rfl
  | cons fault rest =>
    have hstuck : (story.prepare s o).isStuck = true := by
      rw [h.prepare hrun]
      simp [State.isStuck]
    rw [advance_of_isStuck hstuck, hstuck] at hfree
    cases hfree

/-- **A pick that ends without an error runs the script of the picked entry, passes some nodes and
stops. The node at which it stops shows the text of the entry once, as things stood after the
script, in front of its own text; where there is no such node nothing is shown.** -/
theorem picked_text_shown_once (story : Story α) (storage : Storage) (calls : List Call)
    {position : Nat} {t : State}
    (hpick : story.choose position (story.run (.fresh storage) calls) = .ok t)
    (hfree : t.isStuck = false) :
    let s := story.run (.fresh storage) calls
    ∃ picked id entry after, s.offers[position]? = some picked ∧
      story.OfferOf s picked id entry ∧
      Script.run (story.substitute s entry.script) s.storage = (after, []) ∧
      let first := story.substitute { s with storage := after } entry.prefixText
      ∃ k target last,
        story.Chain k entry.next { s with storage := after, pendingPrefix := first } target last ∧
        story.Stops last target t ∧ story.ShowsBehind first t target := by
  intro s
  obtain ⟨hs, picked, hpicked, rfl⟩ := choose_eq_ok hpick
  obtain ⟨id, entry, hoffer⟩ :=
    offersEntries_run story storage calls picked (List.mem_of_getElem? hpicked)
  rcases hrun : Script.run (story.substitute s entry.script) s.storage with ⟨after, faults⟩
  obtain rfl := hoffer.faultless hrun hfree
  have hprepared := hoffer.prepare hrun
  rw [List.map_nil, List.append_nil] at hprepared
  rw [hprepared, hoffer.next_eq] at hfree ⊢
  refine ⟨picked, id, entry, after, hpicked, hoffer, hrun, ?_⟩
  intro first
  have hclean : ({ s with storage := after, pendingPrefix := first } : State).errors = [] := hs
  exact (moves_advance hclean entry.next).showsBehind hfree

/-- A bridge with a toll. What is paid is noted, by the entry and again on the way. -/
def bridge : Story Float32 where
  graph := { nodes := [
    .create "root" (.choice { prompt := "A bridge.", entries := [
      { text := "Turn back", condition := "IS(afraid)" },
      { text := "Pay", script := "SET_STR(purse, \"light\")", prefixText := "Your purse is @purse."
        next := some "toll" }] }),
    .create "toll" (.exec { script := "SET_STR(purse, \"empty\")", next := some "gate" }),
    .create "gate" (.switch { cases := [{ condition := "IS(purse)", next := some "far" }] }),
    .create "far" (.exec { text := "The far side, with an @purse purse." })] }

/-- Two nodes are passed on the way. The text of the entry is that of the time of the pick. -/
theorem picked_text_shown_once_bridge : ∃ t first,
    bridge.choose 0 (bridge.run (.fresh {}) [.start]) = .ok t ∧ t.isStuck = false ∧
      t.text = "Your purse is light.\nThe far side, with an empty purse." ∧
      bridge.ShowsBehind first t (some "far") := by
  have hfields : ((bridge.choose 0 (bridge.run (.fresh {}) [.start])).toOption.map fun t =>
      (t.isStuck, t.finished, t.current, t.text)) =
        some (false, false, some "far",
          "Your purse is light.\nThe far side, with an empty purse.") := by
    decide +kernel
  obtain ⟨t, ht, hvalues⟩ := Option.map_eq_some_iff.mp hfields
  obtain ⟨hfree, hrunning, hcurrent, htext⟩ : t.isStuck = false ∧ t.finished = false ∧
      t.current = some "far" ∧
      t.text = "Your purse is light.\nThe far side, with an empty purse." := by
    simpa only [Prod.mk.injEq] using hvalues
  have hpick : bridge.choose 0 (bridge.run (.fresh {}) [.start]) = .ok t := by
    cases h : bridge.choose 0 (bridge.run (.fresh {}) [.start]) with
    | error refusal => rw [h] at ht; cases ht
    | ok s => rw [h] at ht; cases ht; rfl
  obtain ⟨_, _, _, _, -, -, -, _, target, _, -, -, hshows⟩ :=
    picked_text_shown_once bridge {} [.start] hpick hfree
  have htarget : target = some "far" := by
    cases hshows with
    | text _ hid => exact hid.symm.trans hcurrent
    | nothing _ hover => rw [hrunning] at hover; cases hover
  subst htarget
  exact ⟨t, _, hpick, hfree, htext, hshows⟩

end EventGraph.Story
