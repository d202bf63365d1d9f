import EventGraph.Proofs.Editor.Escape
import EventGraph.Proofs.Editor.Replay
import EventGraph.Proofs.Number.Equality

/-!
# Reported moves

A drag moves its nodes at every move of the pointer and reports them when it ends. In between they
rest where they were when it began; so what is not reported is what a press takes out of a drag.
-/

namespace EventGraph

variable {α : Type}

namespace Point

variable [BEq α] {p q r : Point α}

/-- The same place. Zeros of either sign are the same, what is not a number is itself only. -/
def Same (p q : Point α) : Prop := p = q ∨ (p == q) = true

theorem Same.refl (p : Point α) : p.Same p := .inl rfl

theorem Same.trans [PartialEquivBEq α] (h : p.Same q) (h' : q.Same r) : p.Same r := by
  rcases h with rfl | h
  · exact h'
  · rcases h' with rfl | h'
    · exact .inr h
    · exact .inr (BEq.trans h h')

/-- Places that are the same for each listed node give a node the same place. -/
theorem same_placeOf {id : NodeId} {f : Point α → Point α} {starts : List (NodeId × Point α)}
    (hstarts : ∀ start, (id, start) ∈ starts → start.Same (f start)) (h : p.Same q) :
    (placeOf id starts p).Same (placeOf id (starts.map fun start => (start.1, f start.2)) q) := by
  induction starts generalizing p q with
  | nil => exact h
  | cons first rest ih =>
    refine ih (fun start hstart => hstarts start (List.mem_cons_of_mem _ hstart)) ?_
    by_cases hid : id = first.1
    · rw [if_pos hid, if_pos hid]
      exact hstarts first.2 (hid ▸ List.mem_cons_self)
    · rw [if_neg hid, if_neg hid]
      exact h

end Point

namespace Editor

/-- A report names a node among the moved ones. -/
def Action.Reports (report : List Action) (id : NodeId) : Prop :=
  ∃ ids, Action.moved ids ∈ report ∧ id ∈ ids

variable {e e' : Editor α} {id removed : NodeId} {p : Point α}

/-- A drag no longer holds a node that is elsewhere than where the drag began. -/
def LetsGo [BEq α] (e e' : Editor α) (id : NodeId) : Prop :=
  ∃ start p, (id, start) ∈ e.gesture.starts ∧ (id, start) ∉ e'.gesture.starts ∧
    e.graph.place? id = some p ∧ ¬ start.Same p

/-! ### Where nodes rest -/

/-- A node is at a place unless a drag holds it, and then it was there when the drag began. -/
def RestsAt [BEq α] (e : Editor α) (id : NodeId) (p : Point α) : Prop :=
  ∃ q, e.rest.place? id = some q ∧ q.Same p

theorem RestsAt.of_place? [BEq α] (h : e.rest.place? id = some p) : e.RestsAt id p :=
  ⟨p, h, .refl p⟩

theorem RestsAt.of_rest_eq [BEq α] (hrest : e'.rest = e.rest) (h : e'.rest.place? id = some p) :
    e.RestsAt id p :=
  .of_place? (hrest ▸ h)

theorem place?_rest_remove (hids : e.graph.DistinctIds) {n : Node α}
    (hgraph : e.graph.remove removed = some (e'.graph, n))
    (hgesture : e'.gesture = e.gesture.forget removed) (hp : e'.rest.place? id = some p) :
    e.rest.place? id = some p := by
  rw [place?_rest (hids.remove hgraph)] at hp
  obtain ⟨q, hq, rfl⟩ := Option.map_eq_some_iff.mp hp
  obtain ⟨hne, hq⟩ := Graph.place?_remove hids hgraph hq
  rw [place?_rest hids, hq, Option.map_some, hgesture, Gesture.starts_forget, placeOf_filter_ne hne]

theorem place?_rest_removeNode (hids : e.graph.DistinctIds)
    (hp : (e.removeNode removed).1.rest.place? id = some p) : e.rest.place? id = some p := by
  cases hremove : e.graph.remove removed with
  | none =>
    simp only [removeNode, hremove] at hp
    exact hp
  | some r =>
    have hgraph : e.graph.remove removed = some ((e.removeNode removed).1.graph, r.2) := by
      simp only [removeNode, hremove]
    have hgesture : (e.removeNode removed).1.gesture = e.gesture.forget removed := by
      simp only [removeNode, hremove]
    exact place?_rest_remove hids hgraph hgesture hp

theorem place?_rest_removeNodes (hids : e.graph.DistinctIds) {ids : List NodeId}
    (hp : (e.removeNodes ids).1.rest.place? id = some p) : e.rest.place? id = some p := by
  induction ids generalizing e with
  | nil => exact hp
  | cons first rest ih =>
    have hids' : (e.removeNode first).1.graph.DistinctIds :=
      hids.sublist (Graph.ids_replay (replay_removeNode e first))
    exact place?_rest_removeNode hids (ih hids' hp)

/-- Linking and unlinking leave the nodes where they rest. -/
theorem place?_restore_setExit {g g' : Graph α} (hids : g.DistinctIds) {node : NodeId}
    {index : Nat} {target previous : Option NodeId}
    (hset : g.setExit node index target = .ok (g', previous)) (starts : List (NodeId × Point α))
    (id : NodeId) : (restore g' starts).place? id = (restore g starts).place? id := by
  rw [place?_restore (hids.setExit hset), place?_restore hids, Graph.place?_setExit hset]

theorem place?_rest_deleteSelected (hids : e.graph.DistinctIds)
    (hp : e.deleteSelected.1.rest.place? id = some p) : e.rest.place? id = some p := by
  unfold deleteSelected at hp
  split at hp
  · exact place?_rest_removeNodes hids hp
  · simp only at hp
    split at hp
    · rename_i hclear
      exact (place?_restore_setExit hids hclear _ id).symm.trans hp
    · rename_i hclear
      exact (place?_restore_setExit hids hclear _ id).symm.trans hp
    · exact hp

theorem rest_cancel (e : Editor α) : e.cancel.1.rest = e.rest := by
  have hstarts : e.cancel.1.gesture.starts = [] := by
    rw [gesture_cancel]
    rfl
  rw [rest_eq_graph hstarts, graph_cancel]

theorem place?_rest_pressKey (hids : e.graph.DistinctIds) {key : Key}
    (hp : (e.pressKey key).1.rest.place? id = some p) : e.rest.place? id = some p := by
  cases key with
  | escape =>
    simp only [pressKey] at hp
    split at hp
    · split at hp <;> exact hp
    · rwa [rest_cancel] at hp
  | delete | backspace =>
    simp only [pressKey] at hp
    split at hp
    · exact place?_rest_deleteSelected hids hp
    · exact hp
  | other => exact hp

variable [Metric α]

theorem place?_rest_finishLinking (e : Editor α) (hids : e.graph.DistinctIds) {exit : ExitId}
    {cursor : Point α} (hgesture : e.gesture = .linking exit cursor) (world : Point α)
    (button : Button) (id : NodeId) :
    (e.finishLinking exit world button).1.rest.place? id = e.rest.place? id := by
  have hstarts : e.gesture.starts = [] := by rw [hgesture]; rfl
  unfold finishLinking
  split
  · split
    · rw [rest_cancel]
    · split
      · rfl
      · simp only
        split
        · rename_i hlink
          obtain ⟨-, hset⟩ := Graph.setLink_cases hlink
          rw [rest_eq_graph hstarts]
          exact place?_restore_setExit hids hset [] id
        · rw [rest_eq_graph hstarts]
          rfl
  · rw [rest_cancel]

/-- A press leaves a node at rest unless it takes the node out of a drag. -/
theorem PressEffect.restsAt (h : PressEffect e.graph e.gesture e')
    (hids : e.graph.DistinctIds) (hp : e'.rest.place? id = some p) :
    LetsGo e e' id ∨ e.RestsAt id p := by
  rcases h with ⟨hgraph, hgesture⟩ | ⟨hgraph, houtset⟩ | ⟨removed, n, hgraph, hgesture⟩
  · rw [rest, hgraph, hgesture] at hp
    exact .inr (.of_place? hp)
  -- What the new gesture holds, it holds where it is now: a node that was elsewhere is let go of.
  · rw [houtset.rest_eq_graph (by rwa [hgraph]), hgraph] at hp
    have hrest : e.rest.place? id = some (placeOf id e.gesture.starts p) := by
      rw [Editor.place?_rest hids, hp, Option.map_some]
    by_cases hsame : (placeOf id e.gesture.starts p).Same p
    · exact .inr ⟨_, hrest, hsame⟩
    · refine .inl ⟨placeOf id e.gesture.starts p, p, ?_, fun hheld => ?_, hp, hsame⟩
      · exact (placeOf_eq_or_mem id _ p).resolve_left fun heq => hsame (.inl heq)
      · have hplace := houtset.places _ hheld
        rw [hgraph] at hplace
        exact hsame (.inl (Option.some.inj (hplace.symm.trans hp)))
  · exact .inr (.of_place? (place?_rest_remove hids hgraph hgesture hp))

theorem restsAt_press (hids : e.graph.DistinctIds) {screen : Point α} {button : Button}
    {additive : Bool} {time : Nat}
    (hp : (e.press screen button additive time).1.rest.place? id = some p) :
    LetsGo e (e.press screen button additive time).1 id ∨ e.RestsAt id p := by
  by_cases hlink : ∀ exit cursor, e.gesture ≠ .linking exit cursor
  · exact (press_effect hlink screen button additive time).restsAt hids hp
  · push Not at hlink
    obtain ⟨exit, cursor, hgesture⟩ := hlink
    have hpress : e.press screen button additive time =
        { e with pointer := some screen, hover := e.hitAt screen }.finishLinking exit
          (e.viewport.toWorld screen) button := by
      simp only [press, hgesture]
    have hrest := place?_rest_finishLinking
      { e with pointer := some screen, hover := e.hitAt screen } hids hgesture
      (e.viewport.toWorld screen) button id
    rw [hpress, hrest] at hp
    exact .inr (.of_place? hp)

variable [PartialEquivBEq α]

/-- The end of a drag reports the nodes that it puts elsewhere. -/
theorem restsAt_release (hids : e.graph.DistinctIds) {screen : Point α}
    (hp : (e.release screen).1.rest.place? id = some p) :
    Action.Reports (e.release screen).2 id ∨ e.RestsAt id p := by
  cases hgesture : e.gesture with
  | dragging anchor starts =>
    have hrest : (e.release screen).1.rest = restore e.graph (starts.map fun start =>
        (start.1, dropPlace e.settings anchor (e.viewport.toWorld screen) start.2)) := by
      simp only [release, hgesture, drop_eq_restore]
      rfl
    rw [hrest, place?_restore hids] at hp
    obtain ⟨q, hq, rfl⟩ := Option.map_eq_some_iff.mp hp
    by_cases hstill : ∀ start, (id, start) ∈ starts →
        start.Same (dropPlace e.settings anchor (e.viewport.toWorld screen) start)
    · right
      refine ⟨placeOf id starts q, ?_, Point.same_placeOf hstill (.refl q)⟩
      rw [place?_rest hids, hq, hgesture]
      rfl
    · left
      push Not at hstill
      obtain ⟨start, hstart, hmoved⟩ := hstill
      have hput : (dropPlace e.settings anchor (e.viewport.toWorld screen) start == start) =
          false := Bool.eq_false_iff.mpr fun hsame => hmoved (.inr (BEq.symm hsame))
      have hdropped : id ∈
          (drop e.settings anchor (e.viewport.toWorld screen) starts e.graph).2 :=
        mem_drop hstart (Graph.mem_ids_of_place? hq) hput
      have hsome := List.isEmpty_eq_false_iff_exists_mem.mpr ⟨id, hdropped⟩
      refine ⟨_, ?_, hdropped⟩
      simp only [release, hgesture, hsome, Bool.false_eq_true, if_false, List.mem_singleton]
  | idle | panning | selecting | linking =>
    have hrest : (e.release screen).1.rest = e.rest := by
      simp only [release, rest, hgesture, Gesture.starts]
    exact .inr (.of_rest_eq hrest hp)

/-- A press that lets go of a node. -/
def Forsakes (e : Editor α) (event : Event α) (id : NodeId) : Prop :=
  ∃ screen button modifiers time, event = .press screen button modifiers time ∧
    LetsGo e (e.handle event).1 id

/-- An event reports a node, lets go of it by a press or leaves it where it rests. -/
theorem restsAt_handle (hids : e.graph.DistinctIds) {event : Event α}
    (hp : (e.handle event).1.rest.place? id = some p) :
    Action.Reports (e.handle event).2 id ∨ Forsakes e event id ∨ e.RestsAt id p := by
  cases event with
  | press screen button modifiers time =>
    exact .inr ((restsAt_press hids hp).imp_left fun h => ⟨_, _, _, _, rfl, h⟩)
  | move screen =>
    have hrest : (e.handle (.move screen)).1.rest = e.rest := rest_move hids screen
    exact .inr (.inr (.of_rest_eq hrest hp))
  | release screen => exact (restsAt_release hids hp).imp_right .inr
  | wheel screen delta =>
    have hrest : (e.scroll screen delta).rest = e.rest := by
      unfold scroll
      split <;> rfl
    exact .inr (.inr (.of_rest_eq hrest hp))
  | key key => exact .inr (.inr (.of_place? (place?_rest_pressKey hids hp)))
  | resize size => exact .inr (.inr (.of_place? hp))

theorem Action.Reports.of_subset {report more : List Action} (h : Action.Reports report id)
    (hsub : report ⊆ more) : Action.Reports more id := by
  obtain ⟨ids, hmem, hid⟩ := h
  exact ⟨ids, hsub hmem, hid⟩

/-- Some press of a run lets go of a node. -/
def ForsakesIn (e : Editor α) (events : List (Event α)) (id : NodeId) : Prop :=
  ∃ early event, early ++ [event] <+: events ∧ Forsakes (e.after early) event id

theorem restsAt_after (hids : e.graph.DistinctIds) {events : List (Event α)}
    (hp : (e.after events).rest.place? id = some p) :
    Action.Reports (e.report events) id ∨ ForsakesIn e events id ∨ e.RestsAt id p := by
  -- On the first event: what it leaves at rest is where the later events find it.
  induction events generalizing e with
  | nil => exact .inr (.inr (.of_place? hp))
  | cons event rest ih =>
    rcases ih (distinctIds_handle hids event) hp with hlater | ⟨early, last, hprefix, hlater⟩ |
      ⟨q, hq, hqp⟩
    · exact .inl (hlater.of_subset (List.subset_append_right _ _))
    · exact .inr (.inl ⟨event :: early, last, (List.prefix_cons_inj event).mpr hprefix, hlater⟩)
    · rcases restsAt_handle hids hq with hreport | hforsakes | ⟨r, hr, hrq⟩
      · exact .inl (hreport.of_subset (List.subset_append_left _ _))
      · exact .inr (.inl ⟨[], event, (List.prefix_append [event] rest), hforsakes⟩)
      · exact .inr (.inr ⟨r, hr, hrq.trans hqp⟩)

/-- **From one time with no gesture to another, every node that is elsewhere in the end is reported
as moved, unless a press took it out of a drag away from where that drag began.** -/
theorem moves_reported (hids : e.graph.DistinctIds) (hbefore : e.gesture = .idle)
    {events : List (Event α)} (hafter : (e.after events).gesture = .idle) {q : Point α}
    (hq : e.graph.place? id = some q) (hp : (e.after events).graph.place? id = some p)
    (hmoved : ¬ q.Same p) : Action.Reports (e.report events) id ∨ ForsakesIn e events id := by
  have hrest : e.rest = e.graph := rest_eq_graph (by rw [hbefore]; rfl)
  have hrest' : (e.after events).rest = (e.after events).graph :=
    rest_eq_graph (by rw [hafter]; rfl)
  rw [← hrest'] at hp
  rcases restsAt_after hids hp with hreports | hforsakes | ⟨r, hr, hsame⟩
  · exact .inl hreports
  · exact .inr hforsakes
  · rw [hrest, hq] at hr
    obtain rfl := Option.some.inj hr
    exact absurd hsame hmoved

/-- The node is dragged until the middle button is pressed, which moves the view from then on. -/
def abandoned : List (Event Float32) := [
  .press ⟨450.0, 320.0⟩ .primary {} 0,
  .move ⟨550.0, 420.0⟩,
  .press ⟨550.0, 420.0⟩ .middle {} 100,
  .release ⟨550.0, 420.0⟩]

theorem distinctIds_lone : lone.graph.DistinctIds := by
  unfold Graph.DistinctIds
  decide +kernel

/-- The drag is neither reported nor taken back. -/
theorem run_abandoned :
    lone.graph.place? "end" = some ⟨0.0, 0.0⟩ ∧
      (lone.after abandoned).graph.place? "end" = some ⟨100.0, 100.0⟩ ∧
      lone.report abandoned = [.selectionChanged] ∧
      (lone.after abandoned).gesture.isIdle = true := by decide +kernel

theorem not_same_abandoned : ¬ (⟨0.0, 0.0⟩ : Point Float32).Same ⟨100.0, 100.0⟩ := by
  unfold Point.Same
  decide +kernel

theorem not_reports_abandoned : ¬ Action.Reports (lone.report abandoned) "end" := by
  rw [run_abandoned.2.2.1]
  rintro ⟨ids, hmem, -⟩
  simp at hmem

/-- A node is elsewhere after a run from rest to rest that reports no move. -/
theorem unreported_abandoned :
    lone.graph.DistinctIds ∧ lone.gesture = .idle ∧ (lone.after abandoned).gesture = .idle ∧
      lone.graph.place? "end" = some ⟨0.0, 0.0⟩ ∧
      (lone.after abandoned).graph.place? "end" = some ⟨100.0, 100.0⟩ ∧
      ¬ (⟨0.0, 0.0⟩ : Point Float32).Same ⟨100.0, 100.0⟩ ∧
      ¬ Action.Reports (lone.report abandoned) "end" := by
  obtain ⟨hbefore, hafter, -, hidle⟩ := run_abandoned
  exact ⟨distinctIds_lone, rfl, Gesture.isIdle_iff.mp hidle, hbefore, hafter, not_same_abandoned,
    not_reports_abandoned⟩

theorem forsakesIn_abandoned : ForsakesIn lone abandoned "end" := by
  obtain ⟨hbefore, hafter, -, hidle⟩ := run_abandoned
  exact (moves_reported distinctIds_lone rfl (Gesture.isIdle_iff.mp hidle) hbefore hafter
    not_same_abandoned).resolve_left not_reports_abandoned

end Editor

end EventGraph
