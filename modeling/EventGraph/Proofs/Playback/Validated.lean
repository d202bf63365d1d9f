import EventGraph.Proofs.Graph.Links
import EventGraph.Proofs.Playback.Call
import EventGraph.Proofs.Playback.Path

/-!
# Play-throughs of validated stories

A fully linked graph leaves a play-through no way out but its ends: it is always on a node,
everything on offer leads to one, and it is over on a terminal node or stuck on a comment.
-/

namespace EventGraph.Story

open Playback

variable {α : Type} {story : Story α} {s s' : State}

/-- A node on which a play-through may be over. -/
def Ending (s : State) (n : Node α) : Prop :=
  n.body = .terminal ∨ (∃ text, n.body = .comment text) ∧ s.isStuck = true

/-- A play-through on a node of the graph that can go on to nodes only. -/
structure OnGraph (story : Story α) (s : State) : Prop where
  node : ∃ n, story.currentNode? s = some n
  offers : ∀ o ∈ s.offers, story.graph.Leads o.next
  ending : s.finished = true →
    s.offers = [] ∧ ∃ n, story.currentNode? s = some n ∧ Ending s n

theorem OnGraph.ofRunning (hnode : ∃ n, story.currentNode? s = some n)
    (hoffers : ∀ o ∈ s.offers, story.graph.Leads o.next) (hs : s.finished = false) :
    OnGraph story s :=
  ⟨hnode, hoffers, fun hover => absurd (hs.symm.trans hover) Bool.false_ne_true⟩

/-! ### Moves along links -/

theorem Passes.currentNode? {id : NodeId} {t : Option NodeId} (h : story.Passes s id t s') :
    ∃ n, story.currentNode? s' = some n := by
  cases h with
  | @exec n e storage hn | @taken n b before after c hn | @fallback n b hn => exact ⟨n, hn⟩

theorem Passes.finished_eq {id : NodeId} {t : Option NodeId} (h : story.Passes s id t s') :
    s'.finished = s.finished := by
  cases h <;> rfl

theorem Chain.currentNode? {k : Nat} {t u : Option NodeId} (h : story.Chain k t s u s')
    (hs : 0 < k ∨ ∃ n, story.currentNode? s = some n) :
    ∃ n, story.currentNode? s' = some n := by
  induction h with
  | here => exact hs.resolve_left (Nat.lt_irrefl 0)
  | pass hp _ ih => exact ih (.inr hp.currentNode?)

theorem closed_leads (hl : story.graph.FullyLinked) : story.graph.Closed story.graph.Leads :=
  fun _ n t hn ht _ => hl n (Graph.mem_of_node? hn) t ht

theorem Chain.finished_eq {k : Nat} {t u : Option NodeId} (h : story.Chain k t s u s') :
    s'.finished = s.finished := h.keeps Passes.finished_eq

theorem Stops.onGraph {t : Option NodeId} (h : story.Stops s t s')
    (hl : story.graph.FullyLinked) (ht : story.graph.Leads t) (hs : s.finished = false) :
    OnGraph story s' := by
  have hnone : ∀ o ∈ ([] : List Offer), story.graph.Leads o.next :=
    fun o ho => absurd ho List.not_mem_nil
  cases h with
  | unlinked =>
    obtain ⟨_, _, hid⟩ := ht
    cases hid
  | missing hmissing =>
    obtain ⟨id, hid, heq⟩ := ht
    cases heq
    exact absurd hid hmissing
  | @terminal _ n hn hb => exact ⟨⟨n, hn⟩, hnone, fun _ => ⟨rfl, n, hn, .inl hb⟩⟩
  | @comment _ n text hn hb =>
    refine ⟨⟨n, hn⟩, hnone, fun _ => ⟨rfl, n, hn, .inr ⟨⟨text, hb⟩, ?_⟩⟩⟩
    simp [State.isStuck]
  | @choice _ n c offers causes hn hb hsift =>
    exact .ofRunning ⟨n, hn⟩ (fun o ho => closed_leads hl _ n o.next hn
      (hsift.next_mem_exits hb ho) ht) hs
  | @shown _ n _ _ _ hn | @failed _ n _ _ _ hn | @faulty _ n _ _ _ _ _ hn =>
    exact .ofRunning ⟨n, hn⟩ hnone hs

/-- A move from a link of a fully linked graph stays on the graph. -/
theorem Moves.onGraph {bound : Nat} {t : Option NodeId} (h : story.Moves bound t s s')
    (hbound : 0 < bound) (hl : story.graph.FullyLinked) (ht : story.graph.Leads t)
    (hs : s.finished = false) : OnGraph story s' := by
  cases h with
  | stops hc _ hstop =>
    exact hstop.onGraph hl (hc.along (closed_leads hl) ht).1 (hc.finished_eq.trans hs)
  | exhausted hc =>
    exact .ofRunning (hc.currentNode? (.inl hbound)) (fun o ho => absurd ho List.not_mem_nil)
      (hc.finished_eq.trans hs)

/-! ### Turns -/

theorem onGraph_start (hne : story.graph.nodes ≠ []) (hl : story.graph.FullyLinked)
    (storage : Storage) : OnGraph story (story.start (.fresh storage)) :=
  (moves_advance rfl story.graph.startId?).onGraph (by decide) hl (Graph.leads_startId? hne) rfl

theorem onGraph_advance {t : Option NodeId} (hl : story.graph.FullyLinked)
    (ht : story.graph.Leads t) (hs : OnGraph story s) (hrunning : s.finished = false) :
    OnGraph story (story.advance t s) := by
  by_cases herrors : s.errors = []
  · exact (moves_advance herrors t).onGraph (by decide) hl ht hrunning
  · rwa [advance_of_isStuck (by simpa [State.isStuck] using herrors)]

theorem prepare_finished (story : Story α) (s : State) (picked : Offer) :
    (story.prepare s picked).finished = s.finished := by
  rcases prepare_cases story s picked with h | ⟨_, _, _, _, _, _, _, h⟩ <;> rw [h]

theorem onGraph_prepare {picked : Offer} (hs : OnGraph story s) (hrunning : s.finished = false) :
    OnGraph story (story.prepare s picked) := by
  rcases prepare_cases story s picked with h | ⟨_, _, _, _, _, _, _, h⟩
  · rwa [h]
  · rw [h]
    exact .ofRunning hs.node hs.offers hrunning

theorem onGraph_take (hl : story.graph.FullyLinked) (hs : OnGraph story s) (turn : Turn) :
    OnGraph story (story.take s turn) := by
  rcases take_cases story s turn with h | ⟨n, e, hn, hb, hrunning, _, h⟩ | ⟨picked, hpicked, _, h⟩
  · rwa [h]
  · rw [h]
    obtain ⟨id, _, hid⟩ := Option.bind_eq_some_iff.mp hn
    have hnext := hl n (Graph.mem_of_node? hid) e.next (next_mem_exits hb)
    exact onGraph_advance hl hnext hs hrunning
  · rw [h]
    -- There is nothing to pick when the play-through is over.
    have hrunning : s.finished = false := by
      rw [Bool.eq_false_iff]
      intro hover
      rw [(hs.ending hover).1] at hpicked
      cases hpicked
    exact onGraph_advance hl (hs.offers picked hpicked) (onGraph_prepare hs hrunning)
      ((prepare_finished story s picked).trans hrunning)

theorem onGraph_play (hne : story.graph.nodes ≠ []) (hl : story.graph.FullyLinked)
    (storage : Storage) (turns : List Turn) : OnGraph story (story.play storage turns) :=
  List.foldlRecOn turns story.take (onGraph_start hne hl storage)
    fun _ hs turn _ => onGraph_take hl hs turn

/-- **A play-through of a story without issues is on a node of its graph after every turn. It
is over only on a terminal node, or stuck on a comment.** -/
theorem play_validated (story : Story α) (hne : story.graph.nodes ≠ [])
    (hv : story.graph.validateAll = []) (storage : Storage) (turns : List Turn) :
    ∃ id n, (story.play storage turns).current = some id ∧ story.graph.node? id = some n ∧
      ((story.play storage turns).finished = true → n.body = .terminal ∨
        (∃ text, n.body = .comment text) ∧ (story.play storage turns).isStuck = true) := by
  have hs := onGraph_play hne (Graph.fullyLinked_of_validateAll hv) storage turns
  obtain ⟨n, hn⟩ := hs.node
  obtain ⟨id, hid, hnode⟩ := Option.bind_eq_some_iff.mp hn
  refine ⟨id, n, hid, hnode, fun hover => ?_⟩
  obtain ⟨_, m, hm, hending⟩ := hs.ending hover
  rw [hn] at hm
  cases hm
  exact hending

/-- A door that opens on an exit, and a note left beside it. -/
def door : Story Float32 where
  graph := { nodes := [
    .create "root" (.choice { prompt := "A door.", entries := [
      { text := "Open", prefixText := "It creaks.", next := some "hall" },
      { text := "Read the note", next := some "note" }] }),
    .create "hall" (.exec { text := "A hall.", next := some "end" }),
    .create "note" (.comment "Nobody comes here."),
    .create "end" .terminal] }

/-- The hall is shown and left, and the play-through is over without an error. -/
theorem play_door : door.graph.nodes ≠ [] ∧ door.graph.validateAll = [] ∧
    (door.play {} [.choose 0, .proceed]).finished = true ∧
    (door.play {} [.choose 0, .proceed]).errors = [] ∧
    ∃ id n, (door.play {} [.choose 0, .proceed]).current = some id ∧
      door.graph.node? id = some n ∧ n.body = .terminal := by
  have hne : door.graph.nodes ≠ [] := List.cons_ne_nil _ _
  have hvalid : door.graph.validateAll = [] := by decide +kernel
  have hover : (door.play {} [.choose 0, .proceed]).finished = true := by decide +kernel
  have herrors : (door.play {} [.choose 0, .proceed]).errors = [] := by decide +kernel
  obtain ⟨id, n, hid, hn, hending⟩ := play_validated door hne hvalid {} [.choose 0, .proceed]
  refine ⟨hne, hvalid, hover, herrors, id, n, hid, hn, (hending hover).resolve_right ?_⟩
  intro hcomment
  simp [State.isStuck, herrors] at hcomment

end EventGraph.Story
