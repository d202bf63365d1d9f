import EventGraph.Proofs.Editor.Picking
import EventGraph.Proofs.Graph.Connectors
import EventGraph.Proofs.Graph.Edit
import EventGraph.Proofs.Scene.GridLines

/-!
# Paint order

A frame is painted in layers, in one of them the nodes that are in sight, in graph order. A node is
looked for at a place from the last one to the first. So what is painted last is found first: a node
that contains a place in sight is itself in sight, and none that could be found is left out.
-/

namespace EventGraph

/-- Of two rectangles that contain the same place, neither is beside the other. -/
theorem Rect.overlaps_of_contains {r s : Rect Float32} {p : Point Float32}
    (hr : r.contains p = true) (hs : s.contains p = true) : r.overlaps s = true := by
  simp only [contains, overlaps, Bool.and_eq_true, decide_eq_true_eq] at hr hs ⊢
  obtain ⟨⟨⟨hleft, hright⟩, htop⟩, hbottom⟩ := hr
  obtain ⟨⟨⟨hleft', hright'⟩, htop'⟩, hbottom'⟩ := hs
  exact ⟨⟨⟨Trans.trans hleft hright', Trans.trans hleft' hright⟩, Trans.trans htop hbottom'⟩,
    Trans.trans htop' hbottom⟩

namespace Scene

/-! ### The grid -/

namespace Grid

variable {spacing last start : Float32}

/-- Where the spacing is not finite, no second line is in sight, or the lines do not end. -/
theorem not_le_of_ends (hfinite : ¬ spacing.isFinite = true) (hpos : ¬ spacing ≤ 0.0)
    (hends : Ends spacing last start) (hstart : start ≤ last) : ¬ start + spacing ≤ last := by
  intro hsecond
  have hsum := (Scalar.isNumber_of_le hsecond).1
  have hspacing := Number.unpack_eq_infinity_of_pos hfinite hpos
    (Number.isNumber_of_isNumber_add hsum)
  -- From the second line on all of them are at infinity, and that is still in sight.
  have hlines : ∀ k, (line spacing start (k + 1)).toModel.unpack = .infinity .positive := by
    intro k
    induction k with
    | zero => exact Number.unpack_add_infinity hspacing hsum
    | succ k ih =>
      rw [line, Number.unpack_add, ih, hspacing]
      exact Number.stored_infinity .positive
  obtain ⟨n, -, hpassed⟩ := hends
  apply hpassed
  cases n with
  | zero => exact hstart
  | succ n =>
    rw [Number.float32_le_iff] at hsecond ⊢
    rwa [hlines n, ← hlines 0]

/-- The lines that end are found. -/
theorem positionsFrom_of_ends (hpos : ¬ spacing ≤ 0.0) (hends : Ends spacing last start) :
    ∃ n, EndsAfter spacing last start n ∧
      positionsFrom spacing last bound start = some ((List.range n).map (line spacing start)) := by
  by_cases hfinite : spacing.isFinite = true
  · obtain ⟨n, hn⟩ := hends
    have hpos' := Number.lt_of_not_le (Number.isNumber_of_isFinite hfinite) (by decide) hpos
    exact ⟨n, hn, (positionsFrom_eq_some_iff hfinite hpos').mpr ⟨n, hn, rfl⟩⟩
  · have hbound : bound = 4294967294 + 2 := rfl
    have hfound : ∃ xs, positionsFrom spacing last bound start = some xs := by
      rw [hbound, positionsFrom]
      by_cases hstart : start ≤ last
      · have hsecond := not_le_of_ends hfinite hpos hends hstart
        have hrises : ¬ start + spacing ≤ start := fun hle => hsecond (Trans.trans hle hstart)
        rw [if_pos hstart, if_neg hrises, positionsFrom, if_neg hsecond]
        exact ⟨[start], rfl⟩
      · rw [if_neg hstart]
        exact ⟨[], rfl⟩
    obtain ⟨xs, hxs⟩ := hfound
    obtain ⟨n, hn, rfl⟩ := endsAfter_of_positionsFrom hxs
    exact ⟨n, hn, hxs⟩

/-- The lines of both directions come to an end. -/
def LinesEnd (e : Editor Float32) : Prop :=
  Ends e.settings.gridSpacing e.viewport.visible.max.x
      (firstLine e.settings.gridSpacing e.viewport.visible.min.x) ∧
    Ends e.settings.gridSpacing e.viewport.visible.max.y
      (firstLine e.settings.gridSpacing e.viewport.visible.min.y)

/-- The lines of a grid up to the ends of what is visible, the vertical ones first. -/
def IsDrawn (e : Editor Float32) (grid : List (Mark Float32)) : Prop :=
  let spacing := e.settings.gridSpacing
  let shown := e.viewport.visible
  ∃ n k, EndsAfter spacing shown.max.x (firstLine spacing shown.min.x) n ∧
    EndsAfter spacing shown.max.y (firstLine spacing shown.min.y) k ∧
    grid = (List.range n).map (vertical e.viewport shown ∘ line spacing
        (firstLine spacing shown.min.x)) ++
      (List.range k).map (horizontal e.viewport shown ∘ line spacing
        (firstLine spacing shown.min.y))

theorem gridMarks_of_linesEnd {e : Editor Float32} (hdrawn : gridIsDrawn e = true)
    (hends : LinesEnd e) : ∃ grid, gridMarks e = some grid ∧ IsDrawn e grid := by
  rw [gridIsDrawn, Bool.and_eq_true] at hdrawn
  obtain ⟨hshown, hspacing⟩ := hdrawn
  have hpos : ¬ e.settings.gridSpacing ≤ 0.0 := by
    rw [isDrawn, Bool.not_eq_true', Bool.or_eq_false_iff, decide_eq_false_iff_not] at hspacing
    exact hspacing.1
  obtain ⟨n, hn, hxs⟩ := positionsFrom_of_ends hpos hends.1
  obtain ⟨k, hk, hys⟩ := positionsFrom_of_ends hpos hends.2
  refine ⟨_, ?_, n, k, hn, hk, rfl⟩
  rw [firstLine] at hxs hys
  rw [gridMarks, if_pos hshown, marks, if_pos hspacing]
  dsimp only
  rw [positions, hxs, positions, hys, firstLine, firstLine, ← List.map_map, ← List.map_map]
  rfl

theorem gridMarks_of_not_drawn {e : Editor Float32} (h : gridIsDrawn e = false) :
    gridMarks e = some [] := by
  rw [gridIsDrawn, Bool.and_eq_false_iff] at h
  rw [gridMarks]
  split
  · rename_i hshown
    have hspacing := h.resolve_left (by rw [hshown]; decide)
    rw [marks, hspacing]
    rfl
  · rfl

end Grid

/-! ### Layers -/

/-- The marks of a frame, back to front. -/
structure Layers where
  grid : List (Mark Float32)
  connectors : List (Mark Float32)
  link : Option (Mark Float32)
  /-- The nodes that are painted, each with its block of marks. -/
  blocks : List (Node Float32 × List (Mark Float32))
  selection : Option (Mark Float32)
  sprite : Option (Mark Float32)

def Layers.marks (l : Layers) : List (Mark Float32) :=
  l.grid ++ l.connectors ++ l.link.toList ++ l.blocks.flatMap (·.2) ++ l.selection.toList ++
    l.sprite.toList

section Shown

variable (e : Editor Float32) (m : Measurer Float32) (h : Highlights Float32)

/-- What the layers of an editor hold. -/
structure Layers.Shows (l : Layers) : Prop where
  /-- All lines of the grid, if it is drawn. -/
  grid : if Grid.gridIsDrawn e then Grid.IsDrawn e l.grid else l.grid = []
  /-- One path for each connector that leads to a node of the graph, in their order. -/
  connectors : List.Forall₂
    (fun (c : Connector Float32) mark => ∃ points stroke, c.curve? = some points ∧
      mark = .path (points.map e.viewport.toScreen) stroke)
    (e.graph.connectors.filter fun c => c.target.any e.graph.contains) l.connectors
  /-- A path while a link is being made from an exit. -/
  link : (∀ mark ∈ l.link, ∃ points stroke, mark = .path points stroke) ∧
    (l.link.isSome ↔ ∃ exit cursor n, e.gesture = .linking exit cursor ∧
      e.graph.node? exit.node = some n ∧ exit.index < n.body.exitCount)
  /-- The nodes that overlap what is visible, in graph order. -/
  nodes : l.blocks.map (·.1) = e.graph.nodes.filter (·.rect.overlaps e.viewport.visible)
  blocks : ∀ block ∈ l.blocks, block.2 = Block.marks e m h block.1 ∧ block.2 ≠ []
  /-- No node is painted twice. -/
  distinct : (l.blocks.map (·.1.id)).Nodup
  /-- A box while nodes are being selected. -/
  selection : (∀ mark ∈ l.selection, ∃ rect corners fill stroke,
      mark = .box rect corners fill stroke) ∧
    (l.selection.isSome ↔ ∃ start current base, e.gesture = .selecting start current base)
  sprite : l.sprite = h.sprite.map fun (name, corner) =>
    .sprite (.ofSize corner (.diagonal spriteSize)) name

/-- What is painted at a place agrees with the node that is found there. -/
structure Layers.Agrees (l : Layers) (world : Point Float32) : Prop where
  /-- The node that is found is painted, and all others at the place are painted before it. -/
  topmost : ∀ n, e.graph.nodeAt? world = some n → ∃ lower block upper,
    l.blocks = lower ++ (n, block) :: upper ∧ n.rect.contains world = true ∧
    ∀ other ∈ l.blocks, other.1.id ≠ n.id → other.1.rect.contains world = true → other ∈ lower
  /-- Where none is found, none is painted. -/
  clear : e.graph.nodeAt? world = none → ∀ block ∈ l.blocks, block.1.rect.contains world = false

end Shown

variable {e : Editor Float32} {m : Measurer Float32} {h : Highlights Float32}
  {grid : List (Mark Float32)}

/-- The layers that are painted on a grid. -/
def layersOn (e : Editor Float32) (m : Measurer Float32) (h : Highlights Float32)
    (grid : List (Mark Float32)) : Layers where
  grid
  connectors := connectorMarks e
  link := linkMark? e
  blocks := (visibleNodes e).map fun n => (n, Block.marks e m h n)
  selection := selectionMark? e
  sprite := spriteMark? h

theorem frame_eq_some (hgrid : gridMarks e = some grid) :
    frame e m h = some (layersOn e m h grid).marks := by
  rw [frame, hgrid, Layers.marks, layersOn, List.flatMap_map]
  rfl

/-! ### What the layers hold -/

theorem forall₂_filterMap {β γ : Type} (f : β → Option γ) (l : List β) :
    List.Forall₂ (fun b c => f b = some c) (l.filter fun b => (f b).isSome) (l.filterMap f) := by
  induction l with
  | nil => exact .nil
  | cons b l ih =>
    cases hb : f b with
    | none => rwa [List.filter_cons_of_neg (by simp [hb]), List.filterMap_cons_none hb]
    | some c =>
      rw [List.filter_cons_of_pos (by simp [hb]), List.filterMap_cons_some hb]
      exact .cons hb ih

/-- A connector has a curve just where its target is in the graph. -/
theorem isSome_curve?_of_mem {g : Graph Float32} {c : Connector Float32} (hc : c ∈ g.connectors) :
    c.curve?.isSome = c.target.any g.contains := by
  obtain ⟨n, -, hc⟩ := List.mem_flatMap.mp hc
  obtain ⟨index, -, rfl⟩ := List.mem_mapIdx.mp hc
  simp only [Connector.curve?, Option.isSome_map]
  cases (n.exitAnchors.zip n.body.exits)[index].2 with
  | none => rfl
  | some id =>
    rw [Option.bind_some, Option.any_some, Bool.eq_iff_iff, Graph.contains_iff,
      Option.isSome_iff_ne_none, ne_eq, Graph.node?_eq_none_iff, not_not]

theorem forall₂_connectorMarks (e : Editor Float32) : List.Forall₂
    (fun (c : Connector Float32) mark => ∃ points stroke, c.curve? = some points ∧
      mark = .path (points.map e.viewport.toScreen) stroke)
    (e.graph.connectors.filter fun c => c.target.any e.graph.contains) (connectorMarks e) := by
  have hmarks := forall₂_filterMap (fun c : Connector Float32 =>
    c.curve?.map fun points => curveMark e.viewport points (connectorColor e c.exit))
    e.graph.connectors
  have hcurves : ∀ c ∈ e.graph.connectors, (c.curve?.map fun points =>
      curveMark e.viewport points (connectorColor e c.exit)).isSome =
      c.target.any e.graph.contains := by
    intro c hc
    rw [Option.isSome_map, isSome_curve?_of_mem hc]
  rw [List.filter_congr hcurves] at hmarks
  refine hmarks.imp fun c mark hmark => ?_
  obtain ⟨points, hpoints, rfl⟩ := Option.map_eq_some_iff.mp hmark
  exact ⟨points, _, hpoints, rfl⟩

theorem linkMark?_shows (e : Editor Float32) :
    (∀ mark ∈ linkMark? e, ∃ points stroke, mark = .path points stroke) ∧
    ((linkMark? e).isSome ↔ ∃ exit cursor n, e.gesture = .linking exit cursor ∧
      e.graph.node? exit.node = some n ∧ exit.index < n.body.exitCount) := by
  rw [linkMark?]
  cases e.gesture with
  | linking exit cursor =>
    cases hn : e.graph.node? exit.node with
    | none => simp [hn]
    | some n =>
      cases hstart : n.exitAnchors[exit.index]? with
      | none =>
        have hout := List.getElem?_eq_none_iff.mp hstart
        rw [Node.length_exitAnchors] at hout
        simp [hn, hout]
      | some start =>
        obtain ⟨hindex, -⟩ := List.getElem?_eq_some_iff.mp hstart
        rw [Node.length_exitAnchors] at hindex
        simp [hn, hindex, curveMark]
  | idle | panning last | dragging anchor starts | selecting start current base => simp

theorem selectionMark?_shows (e : Editor Float32) :
    (∀ mark ∈ selectionMark? e, ∃ rect corners fill stroke,
      mark = .box rect corners fill stroke) ∧
    ((selectionMark? e).isSome ↔
      ∃ start current base, e.gesture = .selecting start current base) := by
  rw [selectionMark?]
  cases e.gesture with
  | selecting start current base => simp
  | idle | panning last | dragging anchor starts | linking exit cursor => simp

theorem Block.marks_ne_nil (e : Editor Float32) (m : Measurer Float32) (h : Highlights Float32)
    (n : Node Float32) : Block.marks e m h n ≠ [] := by
  simp [Block.marks]

theorem layersOn_shows (hdistinct : e.graph.DistinctIds)
    (hgrid : if Grid.gridIsDrawn e then Grid.IsDrawn e grid else grid = []) :
    (layersOn e m h grid).Shows e m h where
  grid := hgrid
  connectors := forall₂_connectorMarks e
  link := linkMark?_shows e
  nodes := by
    rw [layersOn, List.map_map]
    exact List.map_id _
  blocks := by
    rw [layersOn, List.forall_mem_map]
    exact fun n _ => ⟨rfl, Block.marks_ne_nil e m h n⟩
  distinct := by
    rw [layersOn, List.map_map]
    exact hdistinct.sublist (List.filter_sublist.map _)
  selection := selectionMark?_shows e
  sprite := rfl

/-! ### What is painted and what is found -/

theorem layersOn_agrees {world : Point Float32}
    (hworld : e.viewport.visible.contains world = true) :
    (layersOn e m h grid).Agrees e world where
  topmost := by
    intro n hn
    obtain ⟨hcontains, below, above, hnodes, habove⟩ := eq_of_find?_reverse hn
    let shown (l : List (Node Float32)) := (l.filter (·.rect.overlaps e.viewport.visible)).map
      fun n => (n, Block.marks e m h n)
    have hsight : n.rect.overlaps e.viewport.visible = true :=
      Rect.overlaps_of_contains hcontains hworld
    have hblocks : (layersOn e m h grid).blocks =
        shown below ++ (n, Block.marks e m h n) :: shown above := by
      rw [layersOn]
      dsimp only
      rw [visibleNodes, hnodes, List.filter_append, List.map_append,
        List.filter_cons_of_pos (by exact hsight)]
      rfl
    refine ⟨shown below, _, shown above, hblocks, hcontains, ?_⟩
    intro other hother hid hplace
    rw [hblocks] at hother
    rcases List.mem_append.mp hother with hlower | hnot
    · exact hlower
    · rcases List.mem_cons.mp hnot with rfl | hupper
      · exact absurd rfl hid
      · obtain ⟨k, hk, rfl⟩ := List.mem_map.mp hupper
        rw [habove k (List.mem_of_mem_filter hk)] at hplace
        cases hplace
  clear := by
    intro hnone block hblock
    obtain ⟨n, hn, rfl⟩ := List.mem_map.mp hblock
    have hnot := List.find?_eq_none.mp hnone n (List.mem_reverse.mpr (List.mem_of_mem_filter hn))
    exact Bool.eq_false_iff.mpr hnot

/-- **What is painted last is what is found first. A frame whose grid is off or comes to an end is
made of its layers, and wherever in sight a node is found, it is painted after all others there;
where none is found, none is painted.** -/
theorem frame_in_layers (e : Editor Float32) (m : Measurer Float32) (h : Highlights Float32)
    (hdistinct : e.graph.DistinctIds)
    (hgrid : Grid.gridIsDrawn e = true → Grid.LinesEnd e) :
    ∃ l : Layers, frame e m h = some l.marks ∧ l.Shows e m h ∧
      ∀ world, e.viewport.visible.contains world = true → l.Agrees e world := by
  obtain ⟨grid, hmarks, hlines⟩ : ∃ grid, gridMarks e = some grid ∧
      if Grid.gridIsDrawn e then Grid.IsDrawn e grid else grid = [] := by
    by_cases hdrawn : Grid.gridIsDrawn e = true
    · obtain ⟨grid, hmarks, hlines⟩ := Grid.gridMarks_of_linesEnd hdrawn (hgrid hdrawn)
      exact ⟨grid, hmarks, by rwa [if_pos hdrawn]⟩
    · exact ⟨[], Grid.gridMarks_of_not_drawn (Bool.eq_false_iff.mpr hdrawn), by rw [if_neg hdrawn]⟩
  exact ⟨layersOn e m h grid, frame_eq_some hmarks, layersOn_shows hdistinct hlines,
    fun world hworld => layersOn_agrees hworld⟩

/-- Two nodes that lie over each other, on a grid. -/
def stacked : Editor Float32 := .ofGraph .default { nodes := [
  .create "under" (.exec { next := some "over" }),
  (Node.create "over" (.exec {})).moveTo ⟨30.0, 20.0⟩] }

theorem frame_in_layers_stacked : stacked.graph.DistinctIds ∧
    (Grid.gridIsDrawn stacked = true ∧ Grid.LinesEnd stacked) ∧
    ∃ (l : Layers) (n : Node Float32) (lower upper : List (Node Float32 × List (Mark Float32)))
      (block : List (Mark Float32)), frame stacked .standard {} = some l.marks ∧ n.id = "over" ∧
      l.blocks = lower ++ (n, block) :: upper ∧ ∃ below ∈ lower, below.1.id = "under" := by
  have hdistinct : stacked.graph.DistinctIds :=
    show stacked.graph.ids.Nodup by decide +kernel
  have hdrawn : Grid.gridIsDrawn stacked = true := by decide +kernel
  have hends : Grid.LinesEnd stacked := by
    have hfinite : stacked.settings.gridSpacing.isFinite = true := by decide +kernel
    have hpos : 0.0 < stacked.settings.gridSpacing := by decide +kernel
    exact ⟨Grid.ends_of_near hfinite hpos (by decide +kernel) (by decide +kernel),
      Grid.ends_of_near hfinite hpos (by decide +kernel) (by decide +kernel)⟩
  let place : Point Float32 := ⟨40.0, 30.0⟩
  have hsight : stacked.viewport.visible.contains place = true := by decide +kernel
  have hfound : (stacked.graph.nodeAt? place).map (·.id) = some "over" := by decide +kernel
  have hunder : ((stacked.graph.nodes.filter (·.rect.overlaps stacked.viewport.visible)).any
      fun k => k.id == "under" && k.rect.contains place) = true := by decide +kernel
  obtain ⟨l, hframe, hshows, hagrees⟩ :=
    frame_in_layers stacked .standard {} hdistinct fun _ => hends
  obtain ⟨n, hn, hid⟩ := Option.map_eq_some_iff.mp hfound
  obtain ⟨lower, block, upper, hblocks, -, hlower⟩ := (hagrees place hsight).topmost n hn
  refine ⟨hdistinct, ⟨hdrawn, hends⟩, l, n, lower, upper, block, hframe, hid, hblocks, ?_⟩
  rw [← hshows.nodes, List.any_eq_true] at hunder
  obtain ⟨k, hk, hplace⟩ := hunder
  rw [Bool.and_eq_true, beq_iff_eq] at hplace
  obtain ⟨other, hother, rfl⟩ := List.mem_map.mp hk
  refine ⟨other, hlower other hother ?_ hplace.2, hplace.1⟩
  rw [hplace.1, hid]
  decide

end Scene

end EventGraph
