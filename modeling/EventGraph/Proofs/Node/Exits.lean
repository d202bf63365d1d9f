import EventGraph.Proofs.Graph.Edit

/-!
# Exits of a node

The exits of a node are a list of targets, a list of labels, a list of anchors and, one by one,
the places in its body at which targets are kept. All of them are the same exits under the same
numbers. A node is known from what its exits lead to and from all that it holds besides.
-/

namespace EventGraph

theorem map_modify_eq_map {β γ : Type} {f : β → β} {k : β → γ} (h : ∀ b, k (f b) = k b)
    (l : List β) (i : Nat) : (l.modify i f).map k = l.map k := by
  induction l generalizing i with
  | nil => simp
  | cons b rest ih =>
    cases i with
    | zero => simp [h]
    | succ i => simp [ih]

theorem set_eq_modify {β : Type} {l : List β} {i : Nat} {b : β} (h : l[i]? = some b) (f : β → β) :
    l.set i (f b) = l.modify i f := by
  rw [List.modify_eq_set_getElem?, h]
  rfl

/-- Two views of the items of a list tell it from others if they tell its items from others. -/
theorem eq_of_map_eq {β γ δ : Type} {f : β → γ} {k : β → δ}
    (h : ∀ a b, f a = f b → k a = k b → a = b) {l l' : List β} (hf : l.map f = l'.map f)
    (hk : l.map k = l'.map k) : l = l' := by
  induction l generalizing l' with
  | nil => exact (List.map_eq_nil_iff.mp hf.symm).symm
  | cons a rest ih =>
    cases l' with
    | nil => cases hf
    | cons b rest' =>
      obtain ⟨hfa, hfrest⟩ := List.cons.inj hf
      obtain ⟨hka, hkrest⟩ := List.cons.inj hk
      rw [h a b hfa hka, ih hfrest hkrest]

theorem ChoiceEntry.eq_of_unlinked_eq {a b : ChoiceEntry}
    (h : { a with next := none } = { b with next := none }) (hnext : a.next = b.next) : a = b := by
  cases a
  cases b
  cases h
  cases hnext
  rfl

theorem SwitchCase.eq_of_unlinked_eq {a b : SwitchCase}
    (h : { a with next := none } = { b with next := none }) (hnext : a.next = b.next) : a = b := by
  cases a
  cases b
  cases h
  cases hnext
  rfl

namespace Body

/-! ### What a body holds besides its links -/

/-- A body with all exits unlinked. -/
def bare (b : Body) : Body := b.mapExits fun _ => none

theorem bare_mapExits (f : Option NodeId → Option NodeId) (b : Body) :
    (b.mapExits f).bare = b.bare := by
  cases b <;> simp [bare, mapExits]

theorem bare_setExit (index : Nat) (target : Option NodeId) (b : Body) :
    (b.setExit index target).bare = b.bare := by
  cases b with
  | exec e =>
    rw [setExit]
    split <;> rfl
  | choice c =>
    simp only [setExit, bare, mapExits, map_modify_eq_map
      (f := ({ · with next := target })) (k := fun e : ChoiceEntry => { e with next := none })
      fun _ => rfl]
  | switch s =>
    rw [setExit]
    split
    · rfl
    · simp only [bare, mapExits, map_modify_eq_map
        (f := ({ · with next := target })) (k := fun c : SwitchCase => { c with next := none })
        fun _ => rfl]
  | terminal | comment text => rfl

theorem eq_of_bare_eq {b b' : Body} (hbare : b.bare = b'.bare) (hexits : b.exits = b'.exits) :
    b = b' := by
  cases b with
  | exec e =>
    cases b' with
    | exec e' =>
      cases e
      cases e'
      cases hbare
      cases hexits
      rfl
    | choice c | switch s | terminal | comment text => cases hbare
  | choice c =>
    cases b' with
    | choice c' =>
      obtain ⟨prompt, entries⟩ := c
      obtain ⟨prompt', entries'⟩ := c'
      obtain ⟨hprompt, hentries⟩ := Choice.mk.inj (Body.choice.inj hbare)
      have hsame : entries = entries' :=
        eq_of_map_eq (fun _ _ => ChoiceEntry.eq_of_unlinked_eq) hentries hexits
      subst hprompt hsame
      rfl
    | exec e | switch s | terminal | comment text => cases hbare
  | switch s =>
    cases b' with
    | switch s' =>
      obtain ⟨cases, fallback⟩ := s
      obtain ⟨cases', fallback'⟩ := s'
      obtain ⟨hcases, -⟩ := Switch.mk.inj (Body.switch.inj hbare)
      obtain ⟨hnexts, hfallback⟩ := List.append_inj' hexits rfl
      have hsame : cases = cases' :=
        eq_of_map_eq (fun _ _ => SwitchCase.eq_of_unlinked_eq) hcases hnexts
      obtain ⟨rfl, -⟩ := List.cons.inj hfallback
      subst hsame
      rfl
    | exec e | choice c | terminal | comment text => cases hbare
  | terminal =>
    cases b' with
    | terminal => rfl
    | exec e | choice c | switch s | comment text => cases hbare
  | comment text =>
    cases b' with
    | comment text' => exact hbare
    | exec e | choice c | switch s | terminal => cases hbare

/-! ### Places of exits -/

/-- The place of a body at which the target of one exit is kept. -/
structure Slot where
  target : Option NodeId
  /-- The body with another target at this place. -/
  write : Option NodeId → Body

def slot? : Body → Nat → Option Slot
  | exec e, 0 => some ⟨e.next, fun t => exec { e with next := t }⟩
  | choice c, index => c.entries[index]?.map fun entry =>
    ⟨entry.next, fun t => choice
      { c with entries := c.entries.set index { entry with next := t } }⟩
  | switch s, index =>
    if h : index < s.cases.length then
      some ⟨s.cases[index].next, fun t => switch
        { s with cases := s.cases.set index { s.cases[index] with next := t } }⟩
    else if index = s.cases.length then some ⟨s.fallback, fun t => switch { s with fallback := t }⟩
    else none
  | exec _, _ + 1 | terminal, _ | comment _, _ => none

theorem target_slot? (b : Body) (index : Nat) :
    (b.slot? index).map (·.target) = b.exits[index]? := by
  cases b with
  | exec e => cases index <;> rfl
  | choice c => simp [slot?, exits, Function.comp_def]
  | switch s =>
    simp only [slot?, exits]
    split
    · rename_i hcase
      rw [List.getElem?_append_left (by simpa using hcase), List.getElem?_map,
        List.getElem?_eq_getElem hcase]
      rfl
    · rename_i hcase
      rw [List.getElem?_append_right (by simpa using hcase), List.length_map]
      split
      · rename_i hfallback
        simp [hfallback]
      · rename_i hfallback
        rw [List.getElem?_eq_none (by simp only [List.length_singleton]; omega)]
        rfl
  | terminal | comment text => rfl

theorem write_slot? {b : Body} {index : Nat} {slot : Slot} (h : b.slot? index = some slot)
    (target : Option NodeId) : slot.write target = b.setExit index target := by
  cases b with
  | exec e =>
    cases index with
    | zero =>
      cases h
      rfl
    | succ index => cases h
  | choice c =>
    obtain ⟨entry, hentry, rfl⟩ := Option.map_eq_some_iff.mp h
    rw [setExit, ← set_eq_modify hentry]
  | switch s =>
    simp only [slot?] at h
    split at h
    · rename_i hcase
      cases h
      rw [setExit, if_neg (Nat.ne_of_lt hcase),
        ← set_eq_modify (List.getElem?_eq_getElem hcase)]
    · split at h
      · rename_i hfallback
        cases h
        rw [setExit, if_pos hfallback]
      · cases h
  | terminal | comment text => cases h

end Body

namespace Node

variable {α β : Type}

/-- A node with all exits unlinked: its id, place and heights, its texts, scripts and conditions,
and how many exits there are. -/
def bare (n : Node α) : Node α := { n with body := n.body.bare }

theorem eq_of_bare_eq {n n' : Node α} (hbare : n.bare = n'.bare)
    (hexits : n.body.exits = n'.body.exits) : n = n' := by
  cases n
  cases n'
  obtain ⟨hid, hx, hy, hbody, hheight, hblock⟩ := Node.mk.inj hbare
  obtain rfl := Body.eq_of_bare_eq hbody hexits
  simp only at hid hx hy hheight hblock
  subst hid hx hy hheight hblock
  rfl

theorem exitAnchors_bare [Scalar α] (n : Node α) : n.bare.exitAnchors = n.exitAnchors := by
  obtain ⟨id, x, y, body, height, textBlock⟩ := n
  cases body <;> simp [bare, Body.bare, exitAnchors, Body.mapExits, Body.exitCount]

/-! ### Exits in place -/

/-- What is done to a node in place. A node is left where it fails too. -/
abbrev InPlace (α : Type) : Type → Type := EStateM GraphError (Node α)

namespace InPlace

def setExit (index : Nat) (target : Option NodeId) : InPlace α (Option NodeId) := do
  let n ← get
  let some slot := n.body.slot? index | throw (.exitOutOfRange n.id index)
  set { n with body := slot.write target }
  return slot.target

/-- Unlinks one exit if it leads to `target`. Returns how many it has unlinked. -/
def clearExit (target : NodeId) (index : Nat) : InPlace α Nat := do
  let n ← get
  let some slot := n.body.slot? index | return 0
  if slot.target = some target then
    set { n with body := slot.write none }
    return 1
  else return 0

/-- Goes through exits by their numbers. -/
def clearExits (target : NodeId) : List Nat → InPlace α Nat
  | [] => return 0
  | index :: rest => do
    let cleared ← clearExit target index
    return cleared + (← clearExits target rest)

def clearLinksTo (target : NodeId) : InPlace α Nat := do
  clearExits target (List.range (← get).body.exitCount)

end InPlace

/-- The result of a change that leaves the node as it was where it fails. -/
def leaving (n : Node α) :
    Except GraphError (Node α × β) → EStateM.Result GraphError (Node α) β
  | .ok (n', b) => .ok b n'
  | .error error => .error error n

theorem run_setExit (n : Node α) (index : Nat) (target : Option NodeId) :
    (InPlace.setExit index target).run n = n.leaving (n.setExit index target) := by
  have hexit := n.body.target_slot? index
  simp only [InPlace.setExit, setExit, EStateM.run_bind, EStateM.run_get]
  cases hslot : n.body.slot? index with
  | none =>
    rw [hslot] at hexit
    rw [← hexit]
    rfl
  | some slot =>
    rw [hslot] at hexit
    rw [← hexit, ← Body.write_slot? hslot]
    rfl

/-! Going through the exits one by one, each is looked at once, where it is. -/

/-- A link as it is once `target` is gone. -/
def without (target : NodeId) (link : Option NodeId) : Option NodeId :=
  if link = some target then none else link

theorem without_self (target : NodeId) : without target (some target) = none := if_pos rfl

theorem without_of_ne {target : NodeId} {link : Option NodeId} (h : link ≠ some target) :
    without target link = link := if_neg h

variable {n : Node α}

theorem bare_clearLinksTo (n : Node α) (target : NodeId) :
    (n.clearLinksTo target).1.bare = n.bare := by
  simp only [clearLinksTo, bare, Body.bare_mapExits]

theorem exits_clearLinksTo (n : Node α) (target : NodeId) :
    (n.clearLinksTo target).1.body.exits = n.body.exits.map (without target) :=
  Body.exits_mapExits (without target) n.body

theorem run_clearExit (target : NodeId) {index : Nat} {link : Option NodeId}
    (hlink : n.body.exits[index]? = some link) :
    ∃ n' : Node α, (InPlace.clearExit target index).run n =
        .ok ([link].count (some target)) n' ∧
      n'.bare = n.bare ∧ n'.body.exits = n.body.exits.set index (without target link) := by
  obtain ⟨slot, hslot, rfl⟩ := Option.map_eq_some_iff.mp ((n.body.target_slot? index).trans hlink)
  simp only [InPlace.clearExit, EStateM.run_bind, EStateM.run_get, hslot]
  split
  · rename_i hleads
    refine ⟨{ n with body := n.body.setExit index none }, ?_, ?_, ?_⟩
    · rw [hleads, List.count_singleton_self, ← Body.write_slot? hslot]
      rfl
    · simp only [bare, Body.bare_setExit]
    · rw [Body.exits_setExit, hleads, without_self]
  · rename_i hleads
    refine ⟨n, ?_, rfl, ?_⟩
    · rw [List.count_singleton, if_neg (by simpa using hleads)]
      rfl
    · rw [without_of_ne hleads]
      obtain ⟨hindex, hget⟩ := List.getElem?_eq_some_iff.mp hlink
      rw [← hget, List.set_getElem_self]

theorem run_clearExits (target : NodeId) {done todo : List (Option NodeId)}
    (h : n.body.exits = done ++ todo) :
    ∃ n' : Node α, (InPlace.clearExits target (List.range' done.length todo.length)).run n =
        .ok (todo.count (some target)) n' ∧
      n'.bare = n.bare ∧ n'.body.exits = done ++ todo.map (without target) := by
  -- On the exits that are left: those behind are as they were left, those ahead as at first.
  induction todo generalizing done n with
  | nil => exact ⟨n, rfl, rfl, by rw [h, List.map_nil]⟩
  | cons link rest ih =>
    have hlink : n.body.exits[done.length]? = some link := by simp [h]
    obtain ⟨n₁, hrun, hbare, hexits⟩ := run_clearExit target hlink
    have hsplit : n₁.body.exits = (done ++ [without target link]) ++ rest := by
      rw [hexits, h]
      simp
    obtain ⟨n₂, hrest, hbare', hexits'⟩ := ih hsplit
    refine ⟨n₂, ?_, hbare'.trans hbare, ?_⟩
    · rw [List.length_append, List.length_singleton] at hrest
      rw [List.length_cons, List.range'_succ, InPlace.clearExits, EStateM.run_bind, hrun]
      simp only [EStateM.run_bind, hrest]
      have hcount : (link :: rest).count (some target) =
          [link].count (some target) + rest.count (some target) :=
        @List.count_append _ _ (some target) [link] rest
      rw [hcount]
      rfl
    · rw [hexits', List.append_assoc]
      rfl

/-- Unlinking one exit after the other comes to unlinking them all at once. -/
theorem run_clearLinksTo (n : Node α) (target : NodeId) :
    (InPlace.clearLinksTo target).run n =
      .ok (n.clearLinksTo target).2 (n.clearLinksTo target).1 := by
  obtain ⟨n', hrun, hbare, hexits⟩ :=
    run_clearExits target (List.nil_append n.body.exits).symm
  have hsame : (n.clearLinksTo target).1 = n' := by
    refine eq_of_bare_eq ((bare_clearLinksTo n target).trans hbare.symm) ?_
    rw [exits_clearLinksTo, hexits, List.nil_append]
  rw [List.length_nil, Body.length_exits, ← List.range_eq_range'] at hrun
  rw [hsame]
  exact hrun

end Node

end EventGraph
