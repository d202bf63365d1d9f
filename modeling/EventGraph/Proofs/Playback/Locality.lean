import EventGraph.Proofs.Playback.Call
import EventGraph.Proofs.Playback.Path

/-!
# What a play-through depends on

A play-through never leaves what exits lead to from the entry node, and of the nodes there it
sees the bodies only. Two stories that are alike in this are played alike.
-/

namespace EventGraph.Story

open Playback

variable {α β : Type} {story : Story α} {other : Story β} {s s' : State}

/-- Stories with the same variables and the same entry, and with the same bodies wherever
exits lead from there. -/
structure Alike (story : Story α) (other : Story β) : Prop where
  bindings : story.bindings = other.bindings
  start : story.graph.startId? = other.graph.startId?
  bodies : ∀ id, story.graph.Reaches id →
    (story.graph.node? id).map Node.body = (other.graph.node? id).map Node.body

/-! ### What the variables decide -/

theorem substitute_eq_of_bindings (h : story.bindings = other.bindings) (s : State)
    (text : String) : story.substitute s text = other.substitute s text := by
  simp only [substitute, h]

theorem verdict_eq_of_bindings (h : story.bindings = other.bindings) (s : State)
    (source : String) : story.verdict s source = other.verdict s source := by
  simp only [verdict, substitute_eq_of_bindings h]

theorem runScript_eq_of_bindings (h : story.bindings = other.bindings) (s : State)
    (id : NodeId) (script : String) :
    story.runScript s id script = other.runScript s id script := by
  simp only [runScript, substitute_eq_of_bindings h]

theorem NoneHolds.of_bindings {cases : List SwitchCase} (hnone : story.NoneHolds s cases)
    (h : story.bindings = other.bindings) : other.NoneHolds s cases := by
  intro c hc
  rw [← verdict_eq_of_bindings h]
  exact hnone c hc

theorem Sifts.of_bindings {place : Nat} {entries : List ChoiceEntry} {offers : List Offer}
    {causes : List Cause} (hsift : story.Sifts s place entries offers causes)
    (h : story.bindings = other.bindings) : other.Sifts s place entries offers causes := by
  induction hsift with
  | nil => exact .nil
  | offered hv _ ih =>
    rw [verdict_eq_of_bindings h] at hv
    rw [substitute_eq_of_bindings h]
    exact .offered hv ih
  | hidden hv _ ih =>
    rw [verdict_eq_of_bindings h] at hv
    exact .hidden hv ih
  | faulty hv _ ih =>
    rw [verdict_eq_of_bindings h] at hv
    rw [substitute_eq_of_bindings h]
    exact .faulty hv ih

/-! ### Staying within reach -/

/-- A play-through is within reach of the entry, and so is all that it offers. -/
structure Inside (story : Story α) (s : State) : Prop where
  current : story.graph.Within s.current
  offers : ∀ o ∈ s.offers, story.graph.Within o.next

/-- A text is followed by what is within reach too. -/
theorem Inside.within_next {n : Node α} {e : Exec} (hs : Inside story s)
    (hn : story.currentNode? s = some n) (hb : n.body = .exec e) : story.graph.Within e.next := by
  obtain ⟨id, hid, hnode⟩ := Option.bind_eq_some_iff.mp hn
  have hcurrent := hs.current
  rw [hid] at hcurrent
  exact story.graph.closed_within id n e.next hnode (next_mem_exits hb) hcurrent

theorem Stops.inside {t : Option NodeId} (h : story.Stops s t s') (ht : story.graph.Within t)
    (hs : story.graph.Within s.current) : Inside story s' := by
  have hnone : ∀ o ∈ ([] : List Offer), story.graph.Within o.next :=
    fun o ho => absurd ho List.not_mem_nil
  cases h with
  | unlinked => exact ⟨hs, hnone⟩
  | @choice id n c offers causes hn hb hsift =>
    exact ⟨ht, fun o ho => story.graph.closed_within id n o.next hn
      (hsift.next_mem_exits hb ho) ht⟩
  | missing | terminal | comment | shown | failed | faulty => exact ⟨ht, hnone⟩

theorem Moves.inside {bound : Nat} {t : Option NodeId} (h : story.Moves bound t s s')
    (ht : story.graph.Within t) (hs : story.graph.Within s.current) : Inside story s' := by
  cases h with
  | stops hc _ hstop =>
    obtain ⟨hu, hcurrent⟩ := hc.along story.graph.closed_within ht
    exact hstop.inside hu (hcurrent hs)
  | exhausted hc =>
    obtain ⟨_, hcurrent⟩ := hc.along story.graph.closed_within ht
    exact ⟨hcurrent hs, fun o ho => absurd ho List.not_mem_nil⟩

theorem inside_advance {t : Option NodeId} (hs : Inside story s) (ht : story.graph.Within t) :
    Inside story (story.advance t s) := by
  by_cases herrors : s.errors = []
  · exact (moves_advance herrors t).inside ht hs.current
  · rwa [advance_of_isStuck (by simpa [State.isStuck] using herrors)]

theorem inside_prepare {picked : Offer} (hs : Inside story s) :
    Inside story (story.prepare s picked) := by
  rcases prepare_cases story s picked with h | ⟨_, _, _, _, _, _, _, h⟩ <;> rw [h]
  · exact hs
  · exact ⟨hs.current, hs.offers⟩

theorem inside_take (hs : Inside story s) (turn : Turn) : Inside story (story.take s turn) := by
  rcases take_cases story s turn with h | ⟨n, e, hn, hb, _, _, h⟩ | ⟨picked, hpicked, _, h⟩ <;>
    rw [h]
  · exact hs
  · exact inside_advance hs (hs.within_next hn hb)
  · exact inside_advance (inside_prepare hs) (hs.offers picked hpicked)

theorem inside_fresh (story : Story α) (storage : Storage) : Inside story (.fresh storage) :=
  ⟨fun _ hid => (nomatch hid), fun _ ho => absurd ho List.not_mem_nil⟩

theorem inside_start (story : Story α) (storage : Storage) :
    Inside story (story.start (.fresh storage)) :=
  inside_advance (inside_fresh story storage) story.graph.within_startId?

/-! ### Moves of stories that are alike -/

namespace Alike

theorem node (h : Alike story other) {id : NodeId} {n : Node α} (hid : story.graph.Reaches id)
    (hn : story.graph.node? id = some n) :
    ∃ m, other.graph.node? id = some m ∧ m.body = n.body := by
  have hbody := h.bodies id hid
  rw [hn] at hbody
  exact Option.map_eq_some_iff.mp hbody.symm

theorem missing (h : Alike story other) {id : NodeId} (hid : story.graph.Reaches id)
    (hmissing : id ∉ story.graph.ids) : id ∉ other.graph.ids := by
  have hbody := h.bodies id hid
  rw [Graph.node?_eq_none_iff.mpr hmissing] at hbody
  exact Graph.node?_eq_none_iff.mp (Option.map_eq_none_iff.mp hbody.symm)

theorem passes (h : Alike story other) {id : NodeId} {t : Option NodeId}
    (hid : story.graph.Reaches id) (hp : story.Passes s id t s') : other.Passes s id t s' := by
  cases hp with
  | exec hn hb hrun htext =>
    obtain ⟨m, hm, hbody⟩ := h.node hid hn
    rw [substitute_eq_of_bindings h.bindings] at hrun htext
    exact .exec hm (hbody.trans hb) hrun htext
  | taken hn hb hcases hbefore hc =>
    obtain ⟨m, hm, hbody⟩ := h.node hid hn
    rw [verdict_eq_of_bindings h.bindings] at hc
    exact .taken hm (hbody.trans hb) hcases (hbefore.of_bindings h.bindings) hc
  | fallback hn hb hnone =>
    obtain ⟨m, hm, hbody⟩ := h.node hid hn
    exact .fallback hm (hbody.trans hb) (hnone.of_bindings h.bindings)

theorem stops (h : Alike story other) {t : Option NodeId} (ht : story.graph.Within t)
    (hstop : story.Stops s t s') : other.Stops s t s' := by
  cases hstop with
  | unlinked => exact .unlinked
  | missing hmissing => exact .missing (h.missing (ht _ rfl) hmissing)
  | terminal hn hb =>
    obtain ⟨m, hm, hbody⟩ := h.node (ht _ rfl) hn
    exact .terminal hm (hbody.trans hb)
  | comment hn hb =>
    obtain ⟨m, hm, hbody⟩ := h.node (ht _ rfl) hn
    exact .comment hm (hbody.trans hb)
  | choice hn hb hsift =>
    obtain ⟨m, hm, hbody⟩ := h.node (ht _ rfl) hn
    rw [substitute_eq_of_bindings h.bindings]
    exact .choice hm (hbody.trans hb) (hsift.of_bindings h.bindings)
  | shown hn hb hrun htext =>
    obtain ⟨m, hm, hbody⟩ := h.node (ht _ rfl) hn
    rw [substitute_eq_of_bindings h.bindings] at hrun htext ⊢
    exact .shown hm (hbody.trans hb) hrun htext
  | failed hn hb hrun hfaults htext =>
    obtain ⟨m, hm, hbody⟩ := h.node (ht _ rfl) hn
    rw [substitute_eq_of_bindings h.bindings] at hrun htext
    exact .failed hm (hbody.trans hb) hrun hfaults htext
  | faulty hn hb hcases hbefore hc =>
    obtain ⟨m, hm, hbody⟩ := h.node (ht _ rfl) hn
    rw [verdict_eq_of_bindings h.bindings] at hc
    rw [substitute_eq_of_bindings h.bindings]
    exact .faulty hm (hbody.trans hb) hcases (hbefore.of_bindings h.bindings) hc

theorem chain (h : Alike story other) {k : Nat} {t u : Option NodeId}
    (ht : story.graph.Within t) (hc : story.Chain k t s u s') : other.Chain k t s u s' := by
  induction hc with
  | here => exact .here
  | pass hp _ ih =>
    obtain ⟨hnext, _⟩ := hp.along story.graph.closed_within ht
    exact .pass (h.passes (ht _ rfl) hp) (ih hnext)

theorem moves (h : Alike story other) {bound : Nat} {t : Option NodeId}
    (ht : story.graph.Within t) (hm : story.Moves bound t s s') :
    other.Moves bound t s s' := by
  cases hm with
  | stops hc hk hstop =>
    obtain ⟨hu, _⟩ := hc.along story.graph.closed_within ht
    exact .stops (h.chain ht hc) hk (h.stops hu hstop)
  | exhausted hc => exact .exhausted (h.chain ht hc)

/-! ### Turns -/

theorem advance (h : Alike story other) {t : Option NodeId} (ht : story.graph.Within t)
    (s : State) : other.advance t s = story.advance t s := by
  by_cases herrors : s.errors = []
  · exact (h.moves ht (moves_advance herrors t)).walk herrors
  · have hstuck : s.isStuck = true := by simpa [State.isStuck] using herrors
    rw [advance_of_isStuck hstuck, advance_of_isStuck hstuck]

theorem currentBody (h : Alike story other) (hs : Inside story s) :
    (story.currentNode? s).map Node.body = (other.currentNode? s).map Node.body := by
  unfold currentNode?
  cases hcurrent : s.current with
  | none => rfl
  | some id => exact h.bodies id (hs.current id hcurrent)

theorem proceed (h : Alike story other) (hs : Inside story s) :
    other.proceed s = story.proceed s := by
  unfold Story.proceed
  rw [← h.currentBody hs]
  split
  · rfl
  · split
    · rename_i e he
      obtain ⟨n, hn, hb⟩ := Option.map_eq_some_iff.mp he
      exact h.advance (hs.within_next hn hb) s
    · rfl

theorem currentEntry? (h : Alike story other) (hs : Inside story s) (index : Nat) :
    other.currentEntry? s index = story.currentEntry? s index := by
  unfold Story.currentEntry? currentNode?
  cases hcurrent : s.current with
  | none => rfl
  | some id =>
    have hid := hs.current id hcurrent
    simp only [Option.bind_some]
    cases hn : story.graph.node? id with
    | none =>
      have hm := Graph.node?_eq_none_iff.mpr (h.missing hid (Graph.node?_eq_none_iff.mp hn))
      rw [hm]
    | some n =>
      obtain ⟨m, hm, hbody⟩ := h.node hid hn
      simp only [hm, hbody, Graph.id_of_node? hm, Graph.id_of_node? hn]

theorem prepare (h : Alike story other) (hs : Inside story s) (picked : Offer) :
    other.prepare s picked = story.prepare s picked := by
  unfold Story.prepare
  rw [h.currentEntry? hs]
  simp only [runScript_eq_of_bindings h.bindings, substitute_eq_of_bindings h.bindings]

theorem choose (h : Alike story other) (hs : Inside story s) (position : Nat) :
    other.choose position s = story.choose position s := by
  have hpick (picked : Offer) (hpicked : s.offers[position]? = some picked) :
      other.advance picked.next (other.prepare s picked) =
        story.advance picked.next (story.prepare s picked) := by
    rw [h.prepare hs]
    exact h.advance (hs.offers picked (List.mem_of_getElem? hpicked)) _
  unfold Story.choose
  split
  · rfl
  · split
    · rfl
    · rename_i picked hpicked
      exact congrArg Except.ok (hpick picked hpicked)

theorem take (h : Alike story other) (hs : Inside story s) (turn : Turn) :
    other.take s turn = story.take s turn := by
  cases turn with
  | proceed => exact h.proceed hs
  | choose position => simp only [Story.take, h.choose hs position]

end Alike

/-- After every turn, two stories that are alike are in the same state, which is within reach
of the entry. -/
theorem play_inside (h : Alike story other) (storage : Storage) (turns : List Turn) :
    other.play storage turns = story.play storage turns ∧
      Inside story (story.play storage turns) := by
  have hstart : other.start (.fresh storage) = story.start (.fresh storage) := by
    unfold start
    rw [← h.start]
    exact h.advance story.graph.within_startId? _
  unfold play
  rw [hstart]
  have hs := inside_start story storage
  generalize story.start (.fresh storage) = s at hs
  induction turns generalizing s with
  | nil => exact ⟨rfl, hs⟩
  | cons turn rest ih =>
    rw [List.foldl_cons, List.foldl_cons, h.take hs turn]
    exact ih _ (inside_take hs turn)

/-- **A play-through depends on the bodies of the nodes that are reached from the entry and on
nothing else: stories alike in these are in the same state after every turn, take every pick
in the same way, and are never on a node out of reach.** -/
theorem play_eq_of_alike (h : Alike story other) (storage : Storage) (turns : List Turn) :
    other.play storage turns = story.play storage turns ∧
    (∀ position, other.choose position (other.play storage turns) =
      story.choose position (story.play storage turns)) ∧
    ∀ id, (story.play storage turns).current = some id → story.graph.Reaches id := by
  obtain ⟨heq, hinside⟩ := play_inside h storage turns
  refine ⟨heq, fun position => ?_, hinside.current⟩
  rw [heq, h.choose hinside position]

/-- A lamp that can be lit, once. -/
def lamp : Choice := { prompt := "A lamp.", entries := [
  { text := "Light it", condition := "ISNOT(lit)", script := "SET_BOOL(lit, true)"
    next := some "root" },
  { text := "Leave", next := some "end" }] }

def plain : Story Float32 where
  graph := { nodes := [.create "root" (.choice lamp), .create "end" .terminal] }

/-- The same lamp, moved and among nodes that nothing leads to. -/
def furnished : Story Float32 where
  graph := { nodes := [
    .create "attic" (.exec { script := "SET_BOOL(lit, true)", next := some "root" }),
    .create "end" .terminal, .create "note" (.comment "Lit once only."),
    (Node.create "root" (.choice lamp)).moveTo ⟨40.0, 60.0⟩] }

theorem reaches_plain {id : NodeId} (h : plain.graph.Reaches id) : id = "root" ∨ id = "end" := by
  obtain ⟨entry, hentry, hpath⟩ := h
  induction hpath with
  | refl => exact .inl (Option.some.inj hentry).symm
  | tail _ hlink _ =>
    obtain ⟨n, hn, hexit⟩ := hlink
    have hmem := Graph.mem_of_node? hn
    simp only [plain, List.mem_cons, List.not_mem_nil, or_false] at hmem
    rcases hmem with rfl | rfl
    · simpa [lamp, Node.create, Node.layOut, Body.exits] using hexit
    · simp [Node.create, Node.layOut, Body.exits] at hexit

theorem alike_plain_furnished : Alike plain furnished where
  bindings := rfl
  start := by decide +kernel
  bodies id hid := by
    rcases reaches_plain hid with rfl | rfl <;> rfl

/-- Once the lamp is lit it is on offer no more, and no furniture changes this. -/
theorem play_lamp : Alike plain furnished ∧
    furnished.play {} [.choose 0] = plain.play {} [.choose 0] ∧
    (plain.play {} [.choose 0]).offers = [⟨1, "Leave", some "end"⟩] ∧
    furnished.choose 0 (furnished.play {} [.choose 0]) =
      plain.choose 0 (plain.play {} [.choose 0]) ∧
    plain.graph.Reaches "root" := by
  obtain ⟨heq, hchoose, hreach⟩ := play_eq_of_alike alike_plain_furnished {} [.choose 0]
  have hoffers : (plain.play {} [.choose 0]).offers = [⟨1, "Leave", some "end"⟩] := by
    decide +kernel
  have hcurrent : (plain.play {} [.choose 0]).current = some "root" := by decide +kernel
  exact ⟨alike_plain_furnished, heq, hoffers, hchoose 0, hreach "root" hcurrent⟩

end EventGraph.Story
