import EventGraph.Proofs.Editor.Escape
import Mathlib.Data.List.Induction

/-!
# Double clicks

Which presses open a node. A press on a body is noted until a press on a body or on nothing
follows, and the one that opens the node is not noted itself: no press serves two openings.
-/

namespace EventGraph

/-- When a button is pressed. -/
def Event.pressTime? {α : Type} : Event α → Option Nat
  | .press _ _ _ time => some time
  | .move _ | .release _ | .wheel .. | .key _ | .resize _ => none

namespace Editor

/-! ### Turns of a run -/

/-- A press of the primary button: what it is on, and when. -/
structure Press where
  on : Option Hit
  time : Nat

/-- A press that is on the body of a node or on nothing at all. -/
def Press.Counts (p : Press) : Prop := p.on = none ∨ ∃ id, p.on = some (.body id)

/-- What one event is to the clicks: the press it is, and the nodes that it opens. -/
structure Turn where
  press : Option Press
  opened : List NodeId

namespace Turn

/-- A press on the body of a node. -/
def body (id : NodeId) (time : Nat) (opened : List NodeId) : Turn :=
  ⟨some ⟨some (.body id), time⟩, opened⟩

/-- Whether a turn is a press on the body of a node. -/
def isOn (id : NodeId) (turn : Turn) : Bool := turn.press.any (·.on = some (.body id))

/-- Neither a press on a body nor one on nothing. -/
def Passes (turn : Turn) : Prop := ∀ p ∈ turn.press, ¬ p.Counts

@[simp] theorem isOn_body (id other : NodeId) (time : Nat) (opened : List NodeId) :
    (body other time opened).isOn id = decide (other = id) := by
  simp [isOn, body]

@[simp] theorem opened_body (id : NodeId) (time : Nat) (opened : List NodeId) :
    (body id time opened).opened = opened := rfl

theorem not_passes_body (id : NodeId) (time : Nat) (opened : List NodeId) :
    ¬ (body id time opened).Passes := fun h => h _ rfl (.inr ⟨id, rfl⟩)

end Turn

def Action.opened? : Action → Option NodeId
  | .opened id => some id
  | .removed _ | .linked .. | .unlinked _ | .linkCancelled | .moved _ | .selectionChanged => none

/-- The nodes that a report opens. -/
def openedIn (report : List Action) : List NodeId := report.filterMap Action.opened?

theorem openedIn_append (report more : List Action) :
    openedIn (report ++ more) = openedIn report ++ openedIn more := List.filterMap_append

theorem count_openedIn (report : List Action) (id : NodeId) :
    (openedIn report).count id = report.count (.opened id) := by
  induction report with
  | nil => rfl
  | cons a rest ih =>
    unfold openedIn at ih ⊢
    cases a <;> simp [List.filterMap_cons, List.count_cons, Action.opened?, ih]

section turns

variable {α : Type}

section run

variable [Metric α]

/-- The press that an event is. One that comes while a link is being made only tells where the
link is to lead, and is no click. -/
def press? (e : Editor α) : Event α → Option Press
  | .press screen .primary _ time =>
    match e.gesture with
    | .linking .. => none
    | .idle | .panning _ | .dragging .. | .selecting .. => some ⟨e.hitAt screen, time⟩
  | .press _ .middle _ _ | .press _ .other _ _ | .move _ | .release _ | .wheel .. | .key _
  | .resize _ => none

def turn (e : Editor α) (event : Event α) : Turn :=
  ⟨e.press? event, openedIn (e.handle event).2⟩

/-- What some events are to the clicks, one after the other. -/
def turns (e : Editor α) : List (Event α) → List Turn
  | [] => []
  | event :: rest => e.turn event :: (e.handle event).1.turns rest

theorem getElem?_turns (e : Editor α) (events : List (Event α)) (i : Nat) :
    (e.turns events)[i]? = events[i]?.map fun event => (e.after (events.take i)).turn event := by
  induction events generalizing e i with
  | nil => rfl
  | cons event rest ih =>
    cases i with
    | zero => rfl
    | succ i => exact ih (e.handle event).1 i

theorem exists_of_getElem?_turns {e : Editor α} {events : List (Event α)} {i : Nat} {turn : Turn}
    (h : (e.turns events)[i]? = some turn) :
    ∃ event, events[i]? = some event ∧ (e.after (events.take i)).turn event = turn := by
  rw [getElem?_turns] at h
  exact Option.map_eq_some_iff.mp h

theorem turns_concat (e : Editor α) (events : List (Event α)) (event : Event α) :
    e.turns (events ++ [event]) = e.turns events ++ [(e.after events).turn event] := by
  induction events generalizing e with
  | nil => rfl
  | cons first rest ih => exact congrArg (e.turn first :: ·) (ih (e.handle first).1)

theorem pressTime?_of_press? {e : Editor α} {event : Event α} {p : Press}
    (h : e.press? event = some p) : event.pressTime? = some p.time := by
  unfold press? at h
  split at h
  · split at h <;> cases h
    all_goals rfl
  all_goals cases h

end run

/-! ### What one event is to the clicks -/

/-- A change that opens no node and notes no click. -/
structure Quiet (e : Editor α) (change : Editor α × List Action) : Prop where
  settings : change.1.settings = e.settings
  lastClick : ∀ click, change.1.lastClick = some click → e.lastClick = some click
  opened : openedIn change.2 = []

namespace Quiet

variable {e : Editor α}

theorem of_eq {change : Editor α × List Action} (hsettings : change.1.settings = e.settings)
    (hclick : change.1.lastClick = e.lastClick) (hopened : openedIn change.2 = []) :
    Quiet e change := ⟨hsettings, fun _ h => hclick.symm.trans h, hopened⟩

theorem removeNode (e : Editor α) (id : NodeId) : Quiet e (e.removeNode id) := by
  simp only [Editor.removeNode]
  split
  · exact .of_eq rfl rfl rfl
  · exact ⟨rfl, fun _ h => (Option.filter_eq_some_iff.mp h).1, rfl⟩

theorem removeNodes (e : Editor α) (ids : List NodeId) : Quiet e (e.removeNodes ids) := by
  induction ids generalizing e with
  | nil => exact .of_eq rfl rfl rfl
  | cons id rest ih =>
    have hone := removeNode e id
    have hmore := ih (e.removeNode id).1
    refine ⟨hmore.settings.trans hone.settings, fun click h => hone.lastClick click
      (hmore.lastClick click h), ?_⟩
    simp only [Editor.removeNodes, openedIn_append, hone.opened, hmore.opened, List.append_nil]

theorem deleteSelected (e : Editor α) : Quiet e e.deleteSelected := by
  unfold Editor.deleteSelected
  split
  · exact removeNodes e _
  · dsimp only
    split <;> exact .of_eq rfl rfl rfl

theorem cancel (e : Editor α) : Quiet e e.cancel := by
  unfold Editor.cancel
  dsimp only
  split <;> exact .of_eq rfl rfl rfl

theorem pressKey (e : Editor α) (key : Key) : Quiet e (e.pressKey key) := by
  unfold Editor.pressKey
  split
  · split
    · split <;> exact .of_eq rfl rfl rfl
    · exact cancel e
  · split
    · exact deleteSelected e
    · exact .of_eq rfl rfl rfl
  · split
    · exact deleteSelected e
    · exact .of_eq rfl rfl rfl
  · exact .of_eq rfl rfl rfl

theorem pressConnector (e : Editor α) (exit : ExitId) : Quiet e (e.pressConnector exit) := by
  unfold Editor.pressConnector
  refine .of_eq rfl rfl ?_
  dsimp only
  split <;> rfl

variable [Metric α]

theorem finishLinking (e : Editor α) (exit : ExitId) (world : Point α) (button : Button) :
    Quiet e (e.finishLinking exit world button) := by
  unfold Editor.finishLinking
  split
  · split
    · exact cancel e
    · split
      · exact .of_eq rfl rfl rfl
      · dsimp only
        split <;> exact .of_eq rfl rfl rfl
  · exact cancel e

theorem move (e : Editor α) (screen : Point α) : Quiet e (e.move screen, []) := by
  unfold Editor.move
  dsimp only
  split <;> exact .of_eq rfl rfl rfl

theorem release (e : Editor α) (screen : Point α) : Quiet e (e.release screen) := by
  unfold Editor.release
  dsimp only
  split
  · exact .of_eq rfl rfl rfl
  · refine .of_eq rfl rfl ?_
    dsimp only
    split <;> rfl
  all_goals exact .of_eq rfl rfl rfl

theorem scroll (e : Editor α) (screen : Point α) (delta : α) :
    Quiet e (e.scroll screen delta, []) := by
  unfold Editor.scroll
  split <;> exact .of_eq rfl rfl rfl

end Quiet

/-- Whether a press on a body follows the noted click on it soon enough. -/
def Quick (limit : Nat) (noted : Option Click) (id : NodeId) (time : Nat) : Prop :=
  ∃ click, noted = some click ∧ click.node = id ∧ time ≤ click.time + limit

/-- What a turn makes of the noted click. -/
inductive ClickStep (limit : Nat) (noted noted' : Option Click) : Turn → Prop
  | first {id : NodeId} {time : Nat} : ¬ Quick limit noted id time → noted' = some ⟨id, time⟩ →
      ClickStep limit noted noted' (.body id time [])
  | second {id : NodeId} {time : Nat} : Quick limit noted id time → noted' = none →
      ClickStep limit noted noted' (.body id time [id])
  | nothing {time : Nat} : noted' = none → ClickStep limit noted noted' ⟨some ⟨none, time⟩, []⟩
  | passing {turn : Turn} : turn.Passes → turn.opened = [] →
      (∀ click, noted' = some click → noted = some click) → ClickStep limit noted noted' turn

/-- The clicks take one step, and the settings stay. -/
structure Outcome (e : Editor α) (press : Option Press) (change : Editor α × List Action) :
    Prop where
  settings : change.1.settings = e.settings
  step : ClickStep e.settings.doubleClickMs e.lastClick change.1.lastClick
    ⟨press, openedIn change.2⟩

theorem Quiet.outcome {e : Editor α} {change : Editor α × List Action} (h : Quiet e change)
    {press : Option Press} (hpress : ∀ p ∈ press, ¬ p.Counts) : Outcome e press change :=
  ⟨h.settings, .passing hpress h.opened h.lastClick⟩

theorem isDoubleClick_iff {e : Editor α} {id : NodeId} {time : Nat} :
    e.isDoubleClick id time = true ↔ Quick e.settings.doubleClickMs e.lastClick id time := by
  unfold isDoubleClick Quick
  cases e.lastClick with
  | none => simp
  | some click =>
    simp only [Bool.and_eq_true, beq_iff_eq, decide_eq_true_eq, Option.some.injEq,
      exists_eq_left', Nat.sub_le_iff_le_add']

theorem lastClick_pressBody (e : Editor α) (id : NodeId) (world : Point α) (additive : Bool)
    (time : Nat) : (e.pressBody id world additive time).1.lastClick =
      if e.isDoubleClick id time then none else some ⟨id, time⟩ := by
  unfold pressBody
  dsimp only
  (repeat' split) <;> rfl

theorem openedIn_pressBody (e : Editor α) (id : NodeId) (world : Point α) (additive : Bool)
    (time : Nat) : openedIn (e.pressBody id world additive time).2 =
      if e.isDoubleClick id time then [id] else [] := by
  have hchanged (changed : Prop) [Decidable changed] :
      openedIn (if changed then [.selectionChanged] else []) = [] := by split <;> rfl
  simp only [pressBody, openedIn_append, hchanged, List.append_nil]
  split <;> rfl

theorem pressBody_outcome (e : Editor α) (id : NodeId) (world : Point α) (additive : Bool)
    (time : Nat) :
    Outcome e (some ⟨some (.body id), time⟩) (e.pressBody id world additive time) := by
  have hclick := lastClick_pressBody e id world additive time
  constructor
  case settings =>
    obtain ⟨selection, lastClick, h | h⟩ := pressBody_cases e id world additive time <;> rw [h]
  case step =>
    rw [openedIn_pressBody]
    by_cases hdouble : e.isDoubleClick id time = true
    · rw [if_pos hdouble] at hclick ⊢
      exact .second (isDoubleClick_iff.mp hdouble) hclick
    · rw [if_neg hdouble] at hclick ⊢
      exact .first (hdouble ∘ isDoubleClick_iff.mpr) hclick

theorem pressNothing_outcome (e : Editor α) (screen world : Point α) (additive : Bool)
    (time : Nat) : Outcome e (some ⟨none, time⟩) (e.pressNothing screen world additive) := by
  unfold pressNothing
  dsimp only
  split
  · exact ⟨rfl, .nothing rfl⟩
  · refine ⟨rfl, ?_⟩
    dsimp only
    split <;> exact .nothing rfl

theorem pressPrimary_outcome (e : Editor α) (screen world : Point α) (additive : Bool)
    (time : Nat) :
    Outcome e (some ⟨e.hover, time⟩) (e.pressPrimary screen world additive time) := by
  have hpart {hit : Hit} (hbody : ∀ id, hit ≠ .body id) :
      ∀ p ∈ some (Press.mk (some hit) time), ¬ p.Counts := by
    rintro p hp (hon | ⟨id, hon⟩) <;> cases hp <;> cases hon
    exact hbody id rfl
  unfold pressPrimary
  cases hhover : e.hover with
  | none => exact pressNothing_outcome e screen world additive time
  | some hit =>
    cases hit with
    | closeButton id => exact (Quiet.removeNode e id).outcome (hpart (by simp))
    | exit exit => exact ⟨rfl, .passing (hpart (by simp)) rfl fun _ h => h⟩
    | body id => exact pressBody_outcome e id world additive time
    | connector exit => exact (Quiet.pressConnector e exit).outcome (hpart (by simp))

variable [Metric α] {e : Editor α}

theorem press_outcome (e : Editor α) (screen : Point α) (button : Button)
    (modifiers : Modifiers) (time : Nat) :
    Outcome e (e.press? (.press screen button modifiers time))
      (e.press screen button modifiers.isAdditive time) := by
  -- Only the place of the pointer is noted before the press itself.
  have hmoved {press : Option Press} {change : Editor α × List Action}
      (h : Outcome { e with pointer := some screen, hover := e.hitAt screen } press change) :
      Outcome e press change := ⟨h.settings, h.step⟩
  have hnone : ∀ p ∈ (none : Option Press), ¬ p.Counts := by simp
  refine hmoved ?_
  unfold press press?
  cases hgesture : e.gesture with
  | linking exit cursor =>
    cases button <;>
      exact (Quiet.finishLinking _ exit (e.viewport.toWorld screen) _).outcome hnone
  | _ =>
    cases button with
    | primary =>
      exact pressPrimary_outcome _ screen (e.viewport.toWorld screen) modifiers.isAdditive time
    | middle => exact ⟨rfl, .passing hnone rfl fun _ h => h⟩
    | other => exact ⟨rfl, .passing hnone rfl fun _ h => h⟩

theorem handle_outcome (e : Editor α) (event : Event α) :
    Outcome e (e.press? event) (e.handle event) := by
  have hnone : ∀ p ∈ (none : Option Press), ¬ p.Counts := by simp
  cases event with
  | press screen button modifiers time => exact press_outcome e screen button modifiers time
  | move screen => exact (Quiet.move e screen).outcome hnone
  | release screen => exact (Quiet.release e screen).outcome hnone
  | wheel screen delta => exact (Quiet.scroll e screen delta).outcome hnone
  | key key => exact (Quiet.pressKey e key).outcome hnone
  | resize size => exact ⟨rfl, .passing hnone rfl fun _ h => h⟩

/-! ### Runs -/

theorem settings_after (e : Editor α) (events : List (Event α)) :
    (e.after events).settings = e.settings := by
  induction events generalizing e with
  | nil => rfl
  | cons event rest ih => exact (ih _).trans (handle_outcome e event).settings

/-- A click that is still noted when a run is over: the press is in the run, opened nothing, and
nothing that counts has followed. -/
def NotedIn (run : List Turn) (click : Click) : Prop :=
  ∃ i : Nat, run[i]? = some (.body click.node click.time []) ∧
    ∀ (k : Nat) (turn : Turn), i < k → run[k]? = some turn → turn.Passes

theorem ClickStep.notedIn {limit : Nat} {noted noted' : Option Click} {turn : Turn}
    (h : ClickStep limit noted noted' turn) {run : List Turn}
    (hnoted : ∀ click, noted = some click → NotedIn run click) {click : Click}
    (hclick : noted' = some click) : NotedIn (run ++ [turn]) click := by
  cases h with
  | first _ hfirst =>
    obtain rfl := Option.some.inj (hfirst.symm.trans hclick)
    refine ⟨run.length, by simp, fun k turn hk hturn => ?_⟩
    have hlt := (List.getElem?_eq_some_iff.mp hturn).1
    simp only [List.length_append, List.length_singleton] at hlt
    omega
  | second _ hnone =>
    rw [hnone] at hclick
    cases hclick
  | nothing hnone =>
    rw [hnone] at hclick
    cases hclick
  | passing hpasses _ hkept =>
    obtain ⟨i, hi, hlater⟩ := hnoted click (hkept click hclick)
    have hlt := (List.getElem?_eq_some_iff.mp hi).1
    refine ⟨i, by rw [List.getElem?_append_left hlt, hi], fun k later hk hturn => ?_⟩
    rcases Nat.lt_or_ge k run.length with hold | hnew
    · rw [List.getElem?_append_left hold] at hturn
      exact hlater k later hk hturn
    · rw [List.getElem?_append_right hnew, List.getElem?_singleton] at hturn
      split at hturn
      · cases hturn
        exact hpasses
      · cases hturn

/-- Whatever click is noted after a run of a fresh editor was made in that run. -/
theorem notedIn_turns (hfresh : e.lastClick = none) (events : List (Event α)) {click : Click}
    (hclick : (e.after events).lastClick = some click) : NotedIn (e.turns events) click := by
  induction events using List.reverseRecOn generalizing click with
  | nil =>
    rw [after, List.foldl_nil, hfresh] at hclick
    cases hclick
  | append_singleton earlier event ih =>
    rw [after_concat] at hclick
    rw [turns_concat]
    exact (handle_outcome (e.after earlier) event).step.notedIn (fun _ h => ih h) hclick

theorem turns_take (e : Editor α) (events : List (Event α)) (n : Nat) :
    e.turns (events.take n) = (e.turns events).take n := by
  induction events generalizing e n with
  | nil => cases n <;> rfl
  | cons event rest ih =>
    cases n with
    | zero => rfl
    | succ n => exact congrArg (e.turn event :: ·) (ih (e.handle event).1 n)

/-- Presses come in the order of their times. -/
theorem time_le_time {events : List (Event α)}
    (htimes : (events.filterMap Event.pressTime?).Pairwise (· ≤ ·)) {i j : Nat} {p q : Press}
    {opened more : List NodeId} (hi : (e.turns events)[i]? = some ⟨some p, opened⟩)
    (hj : (e.turns events)[j]? = some ⟨some q, more⟩) (hij : i < j) : p.time ≤ q.time := by
  have htime {k : Nat} {press : Press} {opened : List NodeId}
      (hk : (e.turns events)[k]? = some ⟨some press, opened⟩) :
      ∃ event, events[k]? = some event ∧ event.pressTime? = some press.time := by
    obtain ⟨event, hevent, hturn⟩ := exists_of_getElem?_turns hk
    exact ⟨event, hevent, pressTime?_of_press? (congrArg Turn.press hturn)⟩
  obtain ⟨event, hevent, hp⟩ := htime hi
  obtain ⟨later, hlater, hq⟩ := htime hj
  obtain ⟨hi', rfl⟩ := List.getElem?_eq_some_iff.mp hevent
  obtain ⟨hj', rfl⟩ := List.getElem?_eq_some_iff.mp hlater
  exact List.pairwise_iff_getElem.mp (List.pairwise_filterMap.mp htimes) i j hi' hj' hij
    p.time hp q.time hq

/-! ### Openings and the presses before them -/

/-- A turn of a run opens a node. -/
def OpensAt (run : List Turn) (j : Nat) (id : NodeId) : Prop :=
  ∃ turn, run[j]? = some turn ∧ id ∈ turn.opened

/-- Two presses on the body of a node, of which the second one opens it: the first is not too long
before it and opens nothing, and no other press on a body and none on nothing lies between. -/
structure Paired (limit : Nat) (run : List Turn) (id : NodeId) (i j : Nat) : Prop where
  before : i < j
  presses : ∃ time time', run[i]? = some (.body id time []) ∧
    run[j]? = some (.body id time' [id]) ∧ time ≤ time' ∧ time' ≤ time + limit
  between : ∀ (k : Nat) (turn : Turn), i < k → k < j → run[k]? = some turn → turn.Passes

theorem ClickStep.eq_of_mem_opened {limit : Nat} {noted noted' : Option Click} {turn : Turn}
    (h : ClickStep limit noted noted' turn) {id : NodeId} (hid : id ∈ turn.opened) :
    ∃ time, turn = .body id time [id] ∧ Quick limit noted id time := by
  cases h with
  | first _ _ => cases hid
  | @second _ time hquick _ =>
    obtain rfl := List.mem_singleton.mp hid
    exact ⟨time, rfl, hquick⟩
  | nothing _ => cases hid
  | passing _ hopened _ =>
    rw [hopened] at hid
    cases hid

theorem ClickStep.length_opened_le {limit : Nat} {noted noted' : Option Click} {turn : Turn}
    (h : ClickStep limit noted noted' turn) : turn.opened.length ≤ 1 := by
  cases h with
  | first _ _ => exact Nat.zero_le 1
  | second _ _ => exact Nat.le_refl 1
  | nothing _ => exact Nat.zero_le 1
  | passing _ hopened _ =>
    rw [hopened]
    exact Nat.zero_le 1

theorem exists_paired_of_opensAt (hfresh : e.lastClick = none) {events : List (Event α)}
    (htimes : (events.filterMap Event.pressTime?).Pairwise (· ≤ ·)) {j : Nat} {id : NodeId}
    (h : OpensAt (e.turns events) j id) :
    ∃ i, Paired e.settings.doubleClickMs (e.turns events) id i j := by
  obtain ⟨turn, hj, hid⟩ := h
  obtain ⟨event, -, rfl⟩ := exists_of_getElem?_turns hj
  obtain ⟨time', hbody, click, hclick, rfl, hquick⟩ :=
    (handle_outcome (e.after (events.take j)) event).step.eq_of_mem_opened hid
  have hsecond : (e.turns events)[j]? = some (.body click.node time' [click.node]) :=
    hj.trans (congrArg some hbody)
  rw [settings_after] at hquick
  -- The click that this press follows was noted by a turn before it.
  obtain ⟨i, hi, hlater⟩ := notedIn_turns hfresh (events.take j) hclick
  rw [turns_take, List.getElem?_take] at hi
  split at hi
  · next hij =>
    refine ⟨i, hij, ⟨click.time, time', hi, hsecond, time_le_time htimes hi hsecond hij, hquick⟩,
      fun k turn hik hkj hk => hlater k turn hik ?_⟩
    rw [turns_take, List.getElem?_take, if_pos hkj, hk]
  · cases hi

theorem Paired.eq_of_opensAt {limit : Nat} {run : List Turn} {id other : NodeId} {i j : Nat}
    (h : Paired limit run id i j) (hother : OpensAt run j other) : other = id := by
  obtain ⟨-, time, -, hj, -⟩ := h.presses
  obtain ⟨turn, hturn, hmem⟩ := hother
  obtain rfl := Option.some.inj (hj.symm.trans hturn)
  exact List.mem_singleton.mp hmem

/-- No press is the first one of two openings. -/
theorem Paired.eq_of_eq {limit : Nat} {run : List Turn} {id id' : NodeId} {i j j' : Nat}
    (h : Paired limit run id i j) (h' : Paired limit run id' i j') : j = j' := by
  have hle {limit : Nat} {run : List Turn} {id id' : NodeId} {i j j' : Nat}
      (h : Paired limit run id i j) (h' : Paired limit run id' i j') : j' ≤ j := by
    obtain ⟨-, time, -, hj, -⟩ := h.presses
    exact Nat.le_of_not_lt fun hlt =>
      Turn.not_passes_body id time [id] (h'.between j _ h.before hlt hj)
  exact Nat.le_antisymm (hle h' h) (hle h h')

/-! ### Openings against presses -/

/-- One for a noted click on the node: half of what an opening takes. -/
def owed (id : NodeId) (noted : Option Click) : Nat :=
  if noted.any (·.node = id) then 1 else 0

theorem ClickStep.balance {limit : Nat} {noted noted' : Option Click} {turn : Turn}
    (h : ClickStep limit noted noted' turn) (id : NodeId) :
    2 * turn.opened.count id + owed id noted' ≤
      owed id noted + if turn.isOn id then 1 else 0 := by
  cases h with
  | first _ hfirst => simp [hfirst, owed]
  | second hquick hnone =>
    obtain ⟨click, rfl, rfl, -⟩ := hquick
    by_cases hnode : click.node = id <;> simp [hnode, hnone, owed]
  | nothing hnone => simp [hnone, owed]
  | passing _ hopened hkept =>
    cases noted' with
    | none => simp [hopened, owed]
    | some click => simp [hopened, hkept click rfl]

theorem openedIn_report (e : Editor α) (events : List (Event α)) :
    openedIn (e.report events) = (e.turns events).flatMap (·.opened) := by
  induction events generalizing e with
  | nil => rfl
  | cons event rest ih =>
    rw [report, openedIn_append, ih]
    rfl

theorem turns_balance (e : Editor α) (events : List (Event α)) (id : NodeId) :
    2 * ((e.turns events).flatMap (·.opened)).count id + owed id (e.after events).lastClick ≤
      owed id e.lastClick + (e.turns events).countP (·.isOn id) := by
  induction events generalizing e with
  | nil => simp [after, turns]
  | cons event rest ih =>
    have hone : 2 * (e.turn event).opened.count id + owed id (e.handle event).1.lastClick ≤
        owed id e.lastClick + if (e.turn event).isOn id then 1 else 0 :=
      (handle_outcome e event).step.balance id
    have hrest := ih (e.handle event).1
    have hafter : e.after (event :: rest) = (e.handle event).1.after rest := rfl
    rw [turns, List.flatMap_cons, List.count_append, List.countP_cons, hafter]
    omega

/-- The openings of a run with the presses that they are matched with. -/
structure CountedOnce (limit : Nat) (run : List Turn) (first : Nat → Nat) : Prop where
  /-- One event opens one node at most. -/
  single : ∀ turn ∈ run, turn.opened.length ≤ 1
  paired : ∀ j id, OpensAt run j id → Paired limit run id (first j) j
  injective : ∀ j j' id id', OpensAt run j id → OpensAt run j' id' → first j = first j' → j = j'

/-- **Double clicks are counted once: on a fresh editor every opening is matched with one earlier
press, no two with the same, and at most every second press on the body of a node opens it.** -/
theorem openings_counted_once (settings : Settings α) (g : Graph α) {events : List (Event α)}
    (htimes : (events.filterMap Event.pressTime?).Pairwise (· ≤ ·)) :
    (∃ first, CountedOnce settings.doubleClickMs ((ofGraph settings g).turns events) first) ∧
      ∀ id, ((ofGraph settings g).report events).count (.opened id) ≤
        ((ofGraph settings g).turns events).countP (·.isOn id) / 2 := by
  have hfresh : (ofGraph settings g).lastClick = none := rfl
  have hsingle : ∀ turn ∈ (ofGraph settings g).turns events, turn.opened.length ≤ 1 := by
    intro turn hturn
    obtain ⟨j, hj⟩ := List.mem_iff_getElem?.mp hturn
    obtain ⟨event, -, rfl⟩ := exists_of_getElem?_turns hj
    exact (handle_outcome _ event).step.length_opened_le
  constructor
  · -- A turn opens one node at most, so its number alone tells which press it is matched with.
    have hpair (j : Nat) : ∃ i, ∀ id, OpensAt ((ofGraph settings g).turns events) j id →
        Paired settings.doubleClickMs ((ofGraph settings g).turns events) id i j := by
      by_cases hopens : ∃ id, OpensAt ((ofGraph settings g).turns events) j id
      · obtain ⟨id, hid⟩ := hopens
        obtain ⟨i, hi⟩ := exists_paired_of_opensAt hfresh htimes hid
        exact ⟨i, fun other hother => hi.eq_of_opensAt hother ▸ hi⟩
      · exact ⟨0, fun id hid => absurd ⟨id, hid⟩ hopens⟩
    obtain ⟨first, hfirst⟩ := Classical.skolem.mp hpair
    refine ⟨first, hsingle, hfirst, fun j j' id id' hj hj' heq => ?_⟩
    exact (hfirst j id hj).eq_of_eq (heq ▸ hfirst j' id' hj')
  · intro id
    have hbalance := turns_balance (ofGraph settings g) events id
    have howed : owed id (ofGraph settings g).lastClick = 0 := rfl
    rw [← openedIn_report, count_openedIn] at hbalance
    omega

end turns

/-- Three presses on the node, each soon after the one before. -/
def tripleClick : List (Event Float32) := [
  .press ⟨450.0, 320.0⟩ .primary {} 0, .release ⟨450.0, 320.0⟩,
  .press ⟨450.0, 320.0⟩ .primary {} 200, .release ⟨450.0, 320.0⟩,
  .press ⟨450.0, 320.0⟩ .primary {} 400]

/-- The second press opens the node, the third one does not. -/
theorem openings_counted_once_tripleClick :
    (tripleClick.filterMap Event.pressTime?).Pairwise (· ≤ ·) ∧
      (lone.turns tripleClick).countP (·.isOn "end") = 3 ∧
      (lone.report tripleClick).count (.opened "end") = 1 ∧
      ∃ i, Paired 300 (lone.turns tripleClick) "end" i 2 := by
  have htimes : (tripleClick.filterMap Event.pressTime?).Pairwise (· ≤ ·) := by decide
  have hsecond : (lone.turns tripleClick)[2]?.map (·.opened) = some ["end"] := by decide +kernel
  obtain ⟨turn, hturn, hopened⟩ := Option.map_eq_some_iff.mp hsecond
  have hopens : OpensAt (lone.turns tripleClick) 2 "end" := ⟨turn, hturn, by simp [hopened]⟩
  obtain ⟨⟨first, hfirst⟩, -⟩ := openings_counted_once .default lone.graph htimes
  exact ⟨htimes, by decide +kernel, by decide +kernel, first 2, hfirst.paired 2 "end" hopens⟩

end Editor

end EventGraph
