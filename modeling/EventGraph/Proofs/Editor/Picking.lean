import EventGraph.Proofs.Editor.Operation
import EventGraph.Proofs.Number.Order

/-!
# Picking

A press asks what is under the pointer, a link that is being made asks which node is there. The
two agree: both take the topmost node, though a part of a node reaches further than its bounds.
Where no node is, it is the nearest connector that is under the pointer.
-/

namespace EventGraph

/-! ### Topmost items -/

theorem eq_of_find?_reverse {β : Type} {p : β → Bool} {l : List β} {b : β}
    (h : l.reverse.find? p = some b) :
    p b = true ∧ ∃ below above, l = below ++ b :: above ∧ ∀ c ∈ above, p c = false := by
  obtain ⟨hb, above, below, hl, habove⟩ := List.find?_eq_some_iff_append.mp h
  refine ⟨hb, below.reverse, above.reverse, ?_, fun c hc => ?_⟩
  · rw [← List.reverse_reverse l, hl]
    simp
  · simpa using habove c (List.mem_reverse.mp hc)

theorem eq_of_findSome?_reverse {β γ : Type} {f : β → Option γ} {l : List β} {c : γ}
    (h : l.reverse.findSome? f = some c) :
    ∃ below b above, l = below ++ b :: above ∧ f b = some c ∧ ∀ a ∈ above, f a = none := by
  obtain ⟨above, b, below, hl, hb, habove⟩ := List.findSome?_eq_some_iff.mp h
  refine ⟨below.reverse, b, above.reverse, ?_, hb, fun a ha => habove a (List.mem_reverse.mp ha)⟩
  rw [← List.reverse_reverse l, hl]
  simp

/-- One node is drawn later than another, and so above it. -/
def Graph.Above {α : Type} (g : Graph α) (n m : Node α) : Prop :=
  ∃ below above, g.nodes = below ++ n :: above ∧ m ∈ above

/-! ### Parts of nodes -/

section node

variable {α : Type} [Metric α] {n : Node α} {reach : α} {world : Point α} {id : NodeId}

/-- No part of a node is at a world point, where exits reach as far as `reach`. -/
structure Node.Misses (n : Node α) (reach : α) (world : Point α) : Prop where
  bounds : n.rect.contains world = false
  closeButton : n.closeButton.contains world = false
  exits : ∀ anchor ∈ n.exitAnchors, ¬ anchor.distance world ≤ reach

theorem Node.hitAt_eq_none_iff : n.hitAt reach world = none ↔ n.Misses reach world := by
  unfold Node.hitAt
  constructor
  · intro h
    split at h
    · cases h
    · rename_i hclose
      split at h
      · cases h
      · rename_i hexits
        split at h
        · cases h
        · rename_i hbounds
          refine ⟨Bool.eq_false_iff.mpr hbounds, Bool.eq_false_iff.mpr hclose, fun a ha => ?_⟩
          simpa using List.findIdx?_eq_none_iff.mp hexits a ha
  · intro h
    have hexits : (n.exitAnchors.findIdx? fun a => decide (a.distance world ≤ reach)) = none :=
      List.findIdx?_eq_none_iff.mpr fun a ha => decide_eq_false (h.exits a ha)
    rw [if_neg (Bool.eq_false_iff.mp h.closeButton), hexits]
    exact if_neg (Bool.eq_false_iff.mp h.bounds)

/-- A node is hit on its close button, on one of its exits or on its body. -/
theorem Node.hitAt_cases {hit : Hit} (h : n.hitAt reach world = some hit) :
    (hit = .closeButton n.id ∧ n.closeButton.contains world = true) ∨
    (∃ index anchor, hit = .exit ⟨n.id, index⟩ ∧ n.exitAnchors[index]? = some anchor ∧
      anchor.distance world ≤ reach) ∨
    (hit = .body n.id ∧ n.rect.contains world = true) := by
  unfold Node.hitAt at h
  split at h
  · rename_i hclose
    cases h
    exact .inl ⟨rfl, hclose⟩
  · split at h
    · rename_i index hexit
      cases h
      obtain ⟨hindex, hnear, -⟩ := List.findIdx?_eq_some_iff_getElem.mp hexit
      exact .inr (.inl ⟨index, _, rfl, List.getElem?_eq_getElem hindex, of_decide_eq_true hnear⟩)
    · split at h
      · rename_i hbounds
        cases h
        exact .inr (.inr ⟨rfl, hbounds⟩)
      · cases h

theorem Node.node?_of_hitAt {hit : Hit} (h : n.hitAt reach world = some hit) :
    hit.node? = some n.id := by
  obtain ⟨rfl, -⟩ | ⟨index, anchor, rfl, -, -⟩ | ⟨rfl, -⟩ := Node.hitAt_cases h <;> rfl

theorem Node.contains_of_hitAt_body (h : n.hitAt reach world = some (.body id)) :
    n.rect.contains world = true ∧ n.id = id := by
  obtain ⟨hhit, -⟩ | ⟨index, anchor, hhit, -, -⟩ | ⟨hhit, hbounds⟩ := Node.hitAt_cases h
  · cases hhit
  · cases hhit
  · cases hhit
    exact ⟨hbounds, rfl⟩

end node

/-! ### Nearest items -/

section nearest

variable {α β : Type} [Metric α] [Std.LawfulOrderLT α] {distance : β → α} {l : List β} {b : β}

variable [Trans (LE.le : α → α → Prop) LE.le LE.le]

/-- The scan keeps the first of the nearest items that it has come by. -/
theorem scan_nearest (distance : β → α) (before between : List β) (best : β)
    (hbefore : ∀ c ∈ before, ¬ distance c ≤ distance best)
    (hbetween : ∀ c ∈ between, ¬ distance c < distance best) (rest : List β) :
    ∃ before' after' b,
      rest.foldl (fun best c => if distance c < distance best then c else best) best = b ∧
      before ++ best :: between ++ rest = before' ++ b :: after' ∧
      (∀ c ∈ before', ¬ distance c ≤ distance b) ∧ ∀ c ∈ after', ¬ distance c < distance b := by
  induction rest generalizing before best between with
  | nil => exact ⟨before, between, best, rfl, List.append_nil _, hbefore, hbetween⟩
  | cons c rest ih =>
    rw [List.foldl_cons]
    by_cases hnearer : distance c < distance best
    · rw [if_pos hnearer]
      have hpassed : ∀ a ∈ before ++ best :: between, ¬ distance a ≤ distance c := by
        intro a ha hle
        rcases List.mem_append.mp ha with hmem | hmem
        · exact hbefore a hmem (Std.le_of_lt (Std.lt_of_le_of_lt hle hnearer))
        · rcases List.mem_cons.mp hmem with rfl | hmem
          · exact Std.not_le_of_gt hnearer hle
          · exact hbetween a hmem (Std.lt_of_le_of_lt hle hnearer)
      simpa using ih (before ++ best :: between) [] c hpassed (by simp)
    · rw [if_neg hnearer]
      have hkept : ∀ a ∈ between ++ [c], ¬ distance a < distance best := by
        intro a ha
        rcases List.mem_append.mp ha with hmem | hmem
        · exact hbetween a hmem
        · rwa [List.mem_singleton.mp hmem]
      simpa using ih before (between ++ [c]) best hbefore hkept

theorem eq_of_nearest? (h : nearest? distance l = some b) :
    ∃ before after, l = before ++ b :: after ∧ (∀ c ∈ before, ¬ distance c ≤ distance b) ∧
      ∀ c ∈ after, ¬ distance c < distance b := by
  cases l with
  | nil => cases h
  | cons first rest =>
    obtain ⟨before, after, b', hscan, hl, hbefore, hafter⟩ :=
      scan_nearest distance [] [] first (by simp) (by simp) rest
    cases h
    rw [hscan]
    exact ⟨before, after, hl, hbefore, hafter⟩

end nearest

/-! ### Distances are numbers -/

theorem Point.isNumber_of_mem_nearer {α : Type} [Metric α] {found : Option α} {d least : α}
    (hfound : ∀ a ∈ found, Scalar.isNumber a = true) (h : least ∈ nearer found d) :
    Scalar.isNumber least = true := by
  unfold nearer at h
  split at h
  · cases h
    rename_i least
    unfold Scalar.min
    split
    · exact hfound least rfl
    · rename_i hother
      rw [Bool.or_eq_true, not_or, Bool.not_eq_true', Bool.not_eq_false] at hother
      exact hother.2
  · split at h
    · rename_i hnumber
      cases h
      exact hnumber
    · cases h

theorem Point.isNumber_of_mem_foldl_nearer {α : Type} [Metric α] {found : Option α} {l : List α}
    {least : α} (hfound : ∀ a ∈ found, Scalar.isNumber a = true)
    (h : least ∈ l.foldl nearer found) : Scalar.isNumber least = true := by
  induction l generalizing found with
  | nil => exact hfound least h
  | cons d rest ih => exact ih (fun _ ha => isNumber_of_mem_nearer hfound ha) h

/-- The nearest segment of a polyline is at a distance that is a number, whatever the points. -/
theorem Point.isNumber_polylineDistance (p : Point Float32) {points : List (Point Float32)}
    (hpoints : 2 ≤ points.length) : Scalar.isNumber (p.polylineDistance points) = true := by
  obtain _ | ⟨a, _ | ⟨b, rest⟩⟩ := points
  · simp at hpoints
  · simp at hpoints
  · simp only [polylineDistance, polylineDistance?]
    cases hleast : (p.segmentDistances (a :: b :: rest)).foldl nearer none with
    | none => decide +kernel
    | some least => exact isNumber_of_mem_foldl_nearer (by simp) hleast

theorem Connector.isNumber_distance (c : Connector Float32) (p : Point Float32) :
    Scalar.isNumber (c.distance p) = true := by
  unfold distance
  cases hstop : c.stop with
  | none =>
    simp only [curve?, hstop, Option.map_none]
    decide +kernel
  | some stop =>
    simp only [curve?, hstop, Option.map_some]
    exact p.isNumber_polylineDistance (by simp [Curve.horizontal, Curve.cubic, segments])

namespace Editor

/-! ### Connectors -/

/-- The connector at a place is within reach and the first of the nearest that have an end. -/
theorem eq_of_connectorAt? {e : Editor Float32} {world : Point Float32} {c : Connector Float32}
    (h : e.connectorAt? world = some c) :
    ∃ before after, e.graph.connectors = before ++ c :: after ∧ c.stop.isSome ∧
      c.distance world ≤ e.connectorReach ∧
      (∀ d ∈ e.graph.connectors, d.stop.isSome → c.distance world ≤ d.distance world) ∧
      ∀ d ∈ before, d.stop.isSome → c.distance world < d.distance world := by
  obtain ⟨nearBefore, nearAfter, hnear, hbefore, hafter⟩ := eq_of_nearest? h
  obtain ⟨front, back, hsplit, hfront, hback⟩ := List.filter_eq_append_iff.mp hnear
  obtain ⟨passed, after, rfl, hpassed, hc, -⟩ := List.filter_eq_cons_iff.mp hback
  rw [Bool.and_eq_true, decide_eq_true_eq] at hc
  obtain ⟨hstop, hreach⟩ := hc
  -- What is as near as that is within reach too, so that it has been compared with it.
  have hcompared {d : Connector Float32} (hstop : d.stop.isSome)
      (hle : d.distance world ≤ c.distance world) :
      (d.stop.isSome && decide (d.distance world ≤ e.connectorReach)) = true := by
    rw [Bool.and_eq_true, decide_eq_true_eq]
    exact ⟨hstop, Trans.trans hle hreach⟩
  have hfarther {d : Connector Float32} (hd : ¬ d.distance world ≤ c.distance world) :
      c.distance world < d.distance world :=
    Number.lt_of_not_le (d.isNumber_distance world) (c.isNumber_distance world) hd
  have hearlier : ∀ d ∈ front ++ passed, d.stop.isSome →
      c.distance world < d.distance world := by
    refine fun d hd hdstop => hfarther fun hle => ?_
    rcases List.mem_append.mp hd with hmem | hmem
    · exact hbefore d (hfront ▸ List.mem_filter.mpr ⟨hmem, hcompared hdstop hle⟩) hle
    · exact hpassed d hmem (hcompared hdstop hle)
  have hnearest : ∀ d ∈ e.graph.connectors, d.stop.isSome →
      c.distance world ≤ d.distance world := by
    refine fun d hd hdstop => Decidable.byContradiction fun hnot => ?_
    have hlt : d.distance world < c.distance world :=
      Number.lt_of_not_le (c.isNumber_distance world) (d.isNumber_distance world) hnot
    have hle : d.distance world ≤ c.distance world := Std.le_of_lt hlt
    have hmem : d ∈ nearBefore ++ c :: nearAfter := by
      rw [← hnear]
      exact List.mem_filter.mpr ⟨hd, hcompared hdstop hle⟩
    rcases List.mem_append.mp hmem with hmem | hmem
    · exact hbefore d hmem hle
    · rcases List.mem_cons.mp hmem with rfl | hmem
      · exact hnot hle
      · exact hafter d hmem hlt
  exact ⟨front ++ passed, after, by simp [hsplit], hstop, hreach, hnearest, hearlier⟩

theorem far_of_connectorAt?_eq_none {e : Editor Float32} {world : Point Float32}
    (h : e.connectorAt? world = none) {c : Connector Float32} (hc : c ∈ e.graph.connectors)
    (hstop : c.stop.isSome) : ¬ c.distance world ≤ e.connectorReach := by
  intro hreach
  have hmem : c ∈ e.graph.connectors.filter fun c =>
      c.stop.isSome && decide (c.distance world ≤ e.connectorReach) :=
    List.mem_filter.mpr ⟨hc, by rw [hstop, decide_eq_true hreach]; rfl⟩
  unfold connectorAt? at h
  obtain ⟨first, rest, hnear⟩ := List.exists_cons_of_ne_nil (List.ne_nil_of_mem hmem)
  rw [hnear] at h
  cases h

/-! ### Hits and nodes -/

section hits

variable {α : Type} [Metric α] {e : Editor α} {screen : Point α} {hit : Hit}

/-- Either some node is hit, the topmost one, or no part of any node is at the place and the
connector there is hit, if there is one. -/
theorem hitAt_cases (e : Editor α) (screen : Point α) :
    (∃ below n above hit, e.hitAt screen = some hit ∧ e.graph.nodes = below ++ n :: above ∧
      n.hitAt e.exitReach (e.viewport.toWorld screen) = some hit ∧
      ∀ m ∈ above, m.Misses e.exitReach (e.viewport.toWorld screen)) ∨
    (∀ n ∈ e.graph.nodes, n.Misses e.exitReach (e.viewport.toWorld screen)) ∧
      e.hitAt screen =
        (e.connectorAt? (e.viewport.toWorld screen)).map fun c => .connector c.exit := by
  simp only [hitAt]
  split
  · rename_i hit hfound
    obtain ⟨below, n, above, hnodes, hn, habove⟩ := eq_of_findSome?_reverse hfound
    exact .inl ⟨below, n, above, hit, rfl, hnodes, hn,
      fun m hm => Node.hitAt_eq_none_iff.mp (habove m hm)⟩
  · rename_i hnone
    refine .inr ⟨fun n hn => Node.hitAt_eq_none_iff.mp ?_, rfl⟩
    exact List.findSome?_eq_none_iff.mp hnone n (List.mem_reverse.mpr hn)

theorem exists_hit_of_nodeAt? {n : Node α}
    (h : e.graph.nodeAt? (e.viewport.toWorld screen) = some n) :
    ∃ hit m, e.hitAt screen = some hit ∧ hit.node? = some m.id ∧
      (m = n ∨ e.graph.Above n m) := by
  obtain ⟨hbounds, lower, upper, hsplit, -⟩ := eq_of_find?_reverse h
  have hmem : n ∈ e.graph.nodes := by simp [hsplit]
  rcases hitAt_cases e screen with ⟨below, m, above, hit, hhit, hnodes, hm, habove⟩ |
    ⟨hmisses, -⟩
  · refine ⟨hit, m, hhit, Node.node?_of_hitAt hm, ?_⟩
    rw [hnodes] at hmem
    rcases List.mem_append.mp hmem with hbelow | hmem
    · obtain ⟨first, second, rfl⟩ := List.append_of_mem hbelow
      exact .inr ⟨first, second ++ m :: above, by simp [hnodes], by simp⟩
    · rcases List.mem_cons.mp hmem with rfl | hover
      · exact .inl rfl
      · rw [(habove n hover).bounds] at hbounds
        cases hbounds
  · rw [(hmisses n hmem).bounds] at hbounds
    cases hbounds

theorem nodeAt?_of_hitAt_body {id : NodeId} (h : e.hitAt screen = some (.body id)) :
    ∃ n, e.graph.nodeAt? (e.viewport.toWorld screen) = some n ∧ n.id = id := by
  rcases hitAt_cases e screen with ⟨below, n, above, hit, hhit, hnodes, hn, habove⟩ | ⟨-, hhit⟩
  · obtain rfl := Option.some.inj (hhit.symm.trans h)
    obtain ⟨hbounds, rfl⟩ := Node.contains_of_hitAt_body hn
    refine ⟨n, List.find?_eq_some_iff_append.mpr
      ⟨hbounds, above.reverse, below.reverse, by simp [hnodes], fun m hm => ?_⟩, rfl⟩
    rw [(habove m (List.mem_reverse.mp hm)).bounds]
    rfl
  · rw [hhit] at h
    obtain ⟨c, -, hc⟩ := Option.map_eq_some_iff.mp h
    cases hc

/-- A hit that is on no node is on the connector at a place where no part of any node is. -/
theorem misses_of_node?_eq_none (h : ∀ hit ∈ e.hitAt screen, hit.node? = none) :
    (∀ n ∈ e.graph.nodes, n.Misses e.exitReach (e.viewport.toWorld screen)) ∧
      e.hitAt screen =
        (e.connectorAt? (e.viewport.toWorld screen)).map fun c => .connector c.exit := by
  rcases hitAt_cases e screen with ⟨below, n, above, hit, hhit, -, hn, -⟩ | hmisses
  · have hnode := h hit hhit
    rw [Node.node?_of_hitAt hn] at hnode
    cases hnode
  · exact hmisses

end hits

/-- What a press hits at a place of the screen is what a link would be made to at that place of the
world. -/
structure Consistent (e : Editor Float32) (screen world : Point Float32) : Prop where
  /-- Where a node is, some part of it or of a node above it is hit. -/
  node : ∀ n, e.graph.nodeAt? world = some n → ∃ hit m, e.hitAt screen = some hit ∧
    hit.node? = some m.id ∧ (m = n ∨ e.graph.Above n m)
  /-- A body is hit only where its node is. -/
  body : ∀ id, e.hitAt screen = some (.body id) → ∃ n, e.graph.nodeAt? world = some n ∧ n.id = id
  /-- A connector, or nothing, is hit only where no part of any node is. -/
  clear : e.hitAt screen = none ∨ (∃ exit, e.hitAt screen = some (.connector exit)) →
    ∀ n ∈ e.graph.nodes, n.Misses e.exitReach world
  /-- Of the connectors that have an end, the first of the nearest is hit, within reach. -/
  connector : ∀ exit, e.hitAt screen = some (.connector exit) → ∃ before c after,
    e.graph.connectors = before ++ c :: after ∧ c.exit = exit ∧ c.stop.isSome ∧
    c.distance world ≤ e.connectorReach ∧
    (∀ d ∈ e.graph.connectors, d.stop.isSome → c.distance world ≤ d.distance world) ∧
    ∀ d ∈ before, d.stop.isSome → c.distance world < d.distance world
  /-- Nothing is hit only where no connector that has an end is within reach either. -/
  nothing : e.hitAt screen = none → ∀ d ∈ e.graph.connectors, d.stop.isSome →
    ¬ d.distance world ≤ e.connectorReach

/-- **What is under the pointer agrees with the node that is there: on every editor and at every
place.** -/
theorem hitAt_consistent (e : Editor Float32) (screen : Point Float32) :
    e.Consistent screen (e.viewport.toWorld screen) where
  node _ hn := exists_hit_of_nodeAt? hn
  body _ hbody := nodeAt?_of_hitAt_body hbody
  clear hclear := by
    refine (misses_of_node?_eq_none fun hit hhit => ?_).1
    obtain hnone | ⟨exit, hexit⟩ := hclear
    · rw [hnone] at hhit
      cases hhit
    · obtain rfl := Option.some.inj (hexit.symm.trans hhit)
      rfl
  connector exit hexit := by
    have hhit := (misses_of_node?_eq_none fun hit hhit => by
      obtain rfl := Option.some.inj (hexit.symm.trans hhit)
      rfl).2
    obtain ⟨c, hc, hcexit⟩ := Option.map_eq_some_iff.mp (hhit.symm.trans hexit)
    obtain ⟨before, after, hsplit, hrest⟩ := eq_of_connectorAt? hc
    exact ⟨before, c, after, hsplit, Hit.connector.inj hcexit, hrest⟩
  nothing hnone d hd hstop := by
    have hhit := (misses_of_node?_eq_none fun hit hhit => by
      rw [hnone] at hhit
      cases hhit).2
    exact far_of_connectorAt?_eq_none (Option.map_eq_none_iff.mp (hhit.symm.trans hnone)) hd hstop

/-- A node that leads to another one aside, and one above it whose exit lies over it. -/
def overlap : Editor Float32 := .ofGraph .default { nodes := [
  .create "under" (.exec { next := some "aside" }),
  (Node.create "aside" .terminal).moveTo ⟨400.0, 0.0⟩,
  (Node.create "over" (.exec {})).moveTo ⟨-150.0, 0.0⟩] }

theorem hitAt_consistent_overlap :
    (overlap.graph.nodeAt? (overlap.viewport.toWorld ⟨453.0, 328.0⟩)).map (·.id) = some "under" ∧
      overlap.hitAt ⟨453.0, 328.0⟩ = some (.exit ⟨"over", 0⟩) ∧
      ∃ before c after, overlap.graph.connectors = before ++ c :: after ∧
        c.exit = ⟨"under", 0⟩ ∧
        c.distance (overlap.viewport.toWorld ⟨700.0, 324.0⟩) ≤ overlap.connectorReach := by
  have hconnector : overlap.hitAt ⟨700.0, 324.0⟩ = some (.connector ⟨"under", 0⟩) := by
    decide +kernel
  obtain ⟨before, c, after, hsplit, hexit, -, hreach, -⟩ :=
    (hitAt_consistent overlap ⟨700.0, 324.0⟩).connector _ hconnector
  exact ⟨by decide +kernel, by decide +kernel, before, c, after, hsplit, hexit, hreach⟩

end Editor

end EventGraph
