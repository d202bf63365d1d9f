import EventGraph.Proofs.Plane.Rational
import EventGraph.Scene.Block
import Mathlib.Data.List.Forall2
import Mathlib.Data.List.Range

/-!
# The stack of a node

A node is a stack from top to bottom: the header, the text block, the rows of the exits where exits
have rows, and padding. The height is computed from the stack, the exits hang in it by the text
block that was kept, and the lines are wrapped once more when the node is drawn. In exact scalars
and with one measurer the three agree: rows and lines are inside the node, the lines between the
header and the rows.
-/

namespace EventGraph

open Metrics Scene

/-- What reaches from a point half a height up and down is inside. -/
def Rect.Holds (r : Rect Rat) (p : Point Rat) (height : Rat) : Prop :=
  r.contains ⟨p.x, p.y - height / 2⟩ = true ∧ r.contains ⟨p.x, p.y + height / 2⟩ = true

theorem Rect.Holds.of_sides {r : Rect Rat} {p : Point Rat} {height : Rat} (hheight : 0 < height)
    (hleft : r.min.x ≤ p.x) (hright : p.x ≤ r.max.x) (htop : r.min.y ≤ p.y - height / 2)
    (hbottom : p.y + height / 2 ≤ r.max.y) : r.Holds p height := by
  have hupper : p.y - height / 2 ≤ r.max.y := by linarith
  have hlower : r.min.y ≤ p.y + height / 2 := by linarith
  simp only [Holds, contains, Bool.and_eq_true, decide_eq_true_eq]
  exact ⟨⟨⟨⟨hleft, hright⟩, htop⟩, hupper⟩, ⟨⟨hleft, hright⟩, hlower⟩, hbottom⟩

namespace Metrics

theorem nodeWidth_pos : (0 : Rat) < nodeWidth := by norm_num [nodeWidth]
theorem headerHeight_pos : (0 : Rat) < headerHeight := by norm_num [headerHeight]
theorem padding_pos : (0 : Rat) < padding := by norm_num [padding]
theorem lineHeight_pos : (0 : Rat) < lineHeight := by norm_num [lineHeight]
theorem exitRowHeight_pos : (0 : Rat) < exitRowHeight := by norm_num [exitRowHeight]
theorem padding_le_nodeWidth : (padding : Rat) ≤ nodeWidth := by norm_num [padding, nodeWidth]

theorem header_le_terminal : (headerHeight + padding : Rat) ≤ leastHeight .terminal := by
  norm_num [headerHeight, padding, leastHeight]

end Metrics

namespace Node

variable {m : Measurer Rat} {n : Node Rat}

/-! ### The height of the stack -/

/-- The lines of the body text. -/
def textLines (n : Node Rat) (m : Measurer Rat) : List String :=
  match n.body.text? with
  | some text => Text.wrap m textWidth text
  | none => []

/-- How many exits have rows. -/
def rowCount (b : Body) : Nat := if Block.hasRows b.kind then b.exitCount else 0

theorem rowCount_of_rows {b : Body} (h : Block.hasRows b.kind = true) : rowCount b = b.exitCount :=
  if_pos h

theorem rowCount_of_no_rows {b : Body} (h : Block.hasRows b.kind = false) : rowCount b = 0 :=
  if_neg (Bool.eq_false_iff.mp h)

theorem textBlock_layOut (m : Measurer Rat) (n : Node Rat) : (n.layOut m).textBlock =
    if (n.textLines m).length = 0 then 0
    else padding + ((n.textLines m).length : Rat) * lineHeight := by
  rw [layOut, textLines]
  cases n.body.text? with
  | none => exact Scalar.zero_rat
  | some text =>
    rw [← Scalar.zero_rat]
    rfl

theorem textBlock_of_no_text (h : n.body.text? = none) : (n.layOut m).textBlock = 0 := by
  rw [textBlock_layOut, textLines, h]
  rfl

theorem textBlock_nonneg (m : Measurer Rat) (n : Node Rat) : 0 ≤ (n.layOut m).textBlock := by
  rw [textBlock_layOut]
  split
  · exact le_rfl
  · exact add_nonneg padding_pos.le (mul_nonneg (Nat.cast_nonneg _) lineHeight_pos.le)

/-- The stack fits into the height; the least heights only add to it. -/
theorem stack_le_height (m : Measurer Rat) (n : Node Rat) :
    headerHeight + (n.layOut m).textBlock + (rowCount n.body : Rat) * exitRowHeight + padding ≤
      (n.layOut m).height := by
  have hheight : (n.layOut m).height = bodyHeight n.body (n.layOut m).textBlock := rfl
  rw [hheight]
  cases hbody : n.body with
  | exec _ | comment _ =>
    rw [bodyHeight, rowCount_of_no_rows rfl, Scalar.max_rat, Nat.cast_zero, zero_mul, add_zero]
    exact le_max_left _ _
  | choice c =>
    rw [bodyHeight, rowCount_of_rows rfl, Scalar.max_rat]
    exact le_max_left _ _
  | switch s =>
    -- The height of a switch leaves the text block out, as there is no text.
    have hnone : (n.layOut m).textBlock = 0 := textBlock_of_no_text (by rw [hbody, Body.text?])
    rw [bodyHeight, rowCount_of_rows rfl, Scalar.max_rat, hnone, add_zero]
    exact le_max_left _ _
  | terminal =>
    have hnone : (n.layOut m).textBlock = 0 := textBlock_of_no_text (by rw [hbody, Body.text?])
    rw [bodyHeight, rowCount_of_no_rows rfl, hnone, Nat.cast_zero, zero_mul, add_zero, add_zero]
    exact header_le_terminal

/-- Where the rows begin, below the header and the text block. -/
def rowsTop (n : Node Rat) : Rat := n.y + headerHeight + n.textBlock

theorem top_lt_rowsTop (m : Measurer Rat) (n : Node Rat) :
    (n.layOut m).rect.min.y < (n.layOut m).rowsTop := by
  show n.y < n.y + headerHeight + (n.layOut m).textBlock
  linarith [headerHeight_pos, textBlock_nonneg m n]

theorem rows_lt_bottom (m : Measurer Rat) (n : Node Rat) :
    (n.layOut m).rowsTop + (rowCount n.body : Rat) * exitRowHeight < (n.layOut m).rect.max.y := by
  show n.y + headerHeight + (n.layOut m).textBlock + _ < n.y + (n.layOut m).height
  linarith [stack_le_height m n, padding_pos]

theorem rowsTop_lt_bottom (m : Measurer Rat) (n : Node Rat) :
    (n.layOut m).rowsTop < (n.layOut m).rect.max.y := by
  have hrows : 0 ≤ (rowCount n.body : Rat) * exitRowHeight :=
    mul_nonneg (Nat.cast_nonneg _) exitRowHeight_pos.le
  linarith [rows_lt_bottom m n]

/-- Half a slot is left above and below the middle of one of so many slots of a height. -/
theorem slot_bounds {i count : Nat} {height : Rat} (hi : i < count) (hheight : 0 < height) :
    height / 2 ≤ (i + 1 / 2) * height ∧ (i + 1 / 2) * height + height / 2 ≤ count * height := by
  have hfirst : 0 ≤ (i : Rat) * height := mul_nonneg (Nat.cast_nonneg i) hheight.le
  have hlast : (i + 1 : Rat) * height ≤ count * height :=
    mul_le_mul_of_nonneg_right (by exact_mod_cast hi) hheight.le
  constructor <;> linarith

/-! ### Exits -/

/-- Where an exit is that has a row. -/
def rowAnchor (n : Node Rat) (i : Nat) : Point Rat :=
  ⟨n.x + nodeWidth, n.rowsTop + (i + 1 / 2) * exitRowHeight⟩

theorem exitAnchors_of_rows (h : Block.hasRows n.kind = true) :
    n.exitAnchors = (List.range n.body.exitCount).map n.rowAnchor := by
  rw [kind] at h
  rw [exitAnchors]
  cases hbody : n.body with
  | exec _ | terminal | comment _ =>
    rw [hbody] at h
    exact absurd h Bool.false_ne_true
  | choice _ | switch _ =>
    refine List.map_congr_left fun i _ => ?_
    rw [rowAnchor, rowsTop, Scalar.half_rat]

theorem exists_rowAnchor_of_mem (h : Block.hasRows n.kind = true) {a : Point Rat}
    (ha : a ∈ n.exitAnchors) : ∃ i < n.body.exitCount, n.rowAnchor i = a := by
  rw [exitAnchors_of_rows h] at ha
  simpa only [List.mem_map, List.mem_range] using ha

theorem eq_of_mem_exitAnchors (h : Block.hasRows n.kind = false) {a : Point Rat}
    (ha : a ∈ n.exitAnchors) : a = ⟨n.x + nodeWidth, n.y + n.height / 2⟩ := by
  rw [kind] at h
  rw [exitAnchors] at ha
  cases hbody : n.body with
  | exec _ =>
    rw [hbody, List.mem_singleton] at ha
    rw [ha, Scalar.half_rat, mul_one_div]
  | terminal | comment _ =>
    rw [hbody] at ha
    exact absurd ha List.not_mem_nil
  | choice _ | switch _ =>
    rw [hbody] at h
    exact absurd h.symm Bool.false_ne_true

/-- The rows are below the text block and above the bottom. -/
theorem row_bounds (m : Measurer Rat) (h : Block.hasRows n.kind = true) {a : Point Rat}
    (ha : a ∈ (n.layOut m).exitAnchors) :
    (n.layOut m).rowsTop ≤ a.y - exitRowHeight / 2 ∧
      a.y + exitRowHeight / 2 < (n.layOut m).rect.max.y := by
  obtain ⟨i, hi, rfl⟩ := exists_rowAnchor_of_mem (n := n.layOut m) h ha
  obtain ⟨hfirst, hlast⟩ := slot_bounds hi exitRowHeight_pos
  have hrows := rows_lt_bottom m n
  rw [rowCount_of_rows h] at hrows
  have hbody : (n.layOut m).body = n.body := rfl
  rw [hbody] at hlast
  simp only [rowAnchor]
  constructor <;> linarith

theorem x_of_mem_exitAnchors {a : Point Rat} (ha : a ∈ n.exitAnchors) : a.x = n.rect.max.x := by
  cases hrows : Block.hasRows n.kind with
  | true =>
    obtain ⟨i, -, rfl⟩ := exists_rowAnchor_of_mem hrows ha
    rfl
  | false =>
    rw [eq_of_mem_exitAnchors hrows ha]
    rfl

/-- An exit in a row, or in the middle of the side, is strictly between top and bottom. -/
theorem exit_between (m : Measurer Rat) {a : Point Rat} (ha : a ∈ (n.layOut m).exitAnchors) :
    (n.layOut m).rect.min.y < a.y ∧ a.y < (n.layOut m).rect.max.y := by
  have htop := top_lt_rowsTop m n
  cases hrows : Block.hasRows n.kind with
  | true =>
    obtain ⟨habove, hbelow⟩ := row_bounds m hrows ha
    have hrow := exitRowHeight_pos
    constructor <;> linarith
  | false =>
    have hmiddle : a = ⟨n.x + nodeWidth, n.y + (n.layOut m).height / 2⟩ :=
      eq_of_mem_exitAnchors (n := n.layOut m) hrows ha
    have hheight : n.y < n.y + (n.layOut m).height := htop.trans (rowsTop_lt_bottom m n)
    rw [hmiddle]
    show n.y < n.y + (n.layOut m).height / 2 ∧
      n.y + (n.layOut m).height / 2 < n.y + (n.layOut m).height
    constructor <;> linarith

theorem holds_exit (m : Measurer Rat) (h : Block.hasRows n.kind = true) {a : Point Rat}
    (ha : a ∈ (n.layOut m).exitAnchors) : (n.layOut m).rect.Holds a exitRowHeight := by
  obtain ⟨habove, hbelow⟩ := row_bounds m h ha
  have hx := x_of_mem_exitAnchors ha
  have hwidth : (n.layOut m).rect.min.x ≤ (n.layOut m).rect.max.x :=
    le_add_of_nonneg_right nodeWidth_pos.le
  exact .of_sides exitRowHeight_pos (hx ▸ hwidth) hx.le
    ((top_lt_rowsTop m n).le.trans habove) hbelow.le

/-- Each exit is one row below the one before. -/
theorem isChain_exitAnchors (h : Block.hasRows n.kind = true) :
    n.exitAnchors.IsChain fun a b => b.y = a.y + exitRowHeight := by
  rw [exitAnchors_of_rows h, List.isChain_map, List.isChain_range]
  intro i _
  simp only [rowAnchor, Nat.succ_eq_add_one]
  push_cast
  ring

/-! ### Lines -/

/-- Where a line of the body text begins. -/
def lineStart (n : Node Rat) (i : Nat) : Point Rat :=
  ⟨n.x + padding, n.y + headerHeight + padding + (i + 1 / 2) * lineHeight⟩

theorem bodyLines_eq (m : Measurer Rat) (n : Node Rat) :
    n.bodyLines m = (n.textLines m).mapIdx fun i line => (n.lineStart i, line) := by
  rw [bodyLines, textLines]
  cases n.body.text? with
  | none => rfl
  | some text => simp only [lineStart, Scalar.half_rat]

/-- The lines that are wrapped anew are in the text block that was kept. -/
theorem line_bounds {i : Nat} (hi : i < (n.textLines m).length) :
    (n.layOut m).rect.min.y + headerHeight ≤ ((n.layOut m).lineStart i).y - lineHeight / 2 ∧
      ((n.layOut m).lineStart i).y + lineHeight / 2 ≤ (n.layOut m).rowsTop := by
  obtain ⟨hfirst, hlast⟩ := slot_bounds hi lineHeight_pos
  have hpadding := padding_pos
  rw [rowsTop, textBlock_layOut, if_neg (i.zero_le.trans_lt hi).ne']
  show n.y + headerHeight ≤ n.y + headerHeight + padding + (i + 1 / 2) * lineHeight - _ ∧
    n.y + headerHeight + padding + (i + 1 / 2) * lineHeight + _ ≤ n.y + headerHeight + _
  constructor <;> linarith

/-- A line that begins at a point is inside, below the header and above the rows. -/
structure HoldsLine (n : Node Rat) (p : Point Rat) : Prop where
  inside : n.rect.Holds p lineHeight
  belowHeader : n.rect.min.y + headerHeight ≤ p.y - lineHeight / 2
  aboveRows : Block.hasRows n.kind = true →
    ∀ a ∈ n.exitAnchors, p.y + lineHeight / 2 ≤ a.y - exitRowHeight / 2

theorem holdsLine_lineStart {i : Nat} (hi : i < (n.textLines m).length) :
    (n.layOut m).HoldsLine ((n.layOut m).lineStart i) := by
  obtain ⟨hheader, hblock⟩ := line_bounds hi
  have htop := (le_add_of_nonneg_right headerHeight_pos.le).trans hheader
  have hbottom := hblock.trans (rowsTop_lt_bottom m n).le
  have hleft : n.x ≤ n.x + padding := le_add_of_nonneg_right padding_pos.le
  have hright : n.x + padding ≤ n.x + nodeWidth := add_le_add_right padding_le_nodeWidth _
  exact ⟨.of_sides lineHeight_pos hleft hright htop hbottom, hheader,
    fun hrows a ha => hblock.trans (row_bounds (n := n) m hrows ha).1⟩

/-- **The exits of a laid out node are on its right side, strictly between top and bottom. Where
exits have rows, each has one, one row below the one before, and the rows are inside the node. The
lines that are drawn with the same measurer are inside, below the header and above the rows.** -/
theorem parts_of_layOut (m : Measurer Rat) (n : Node Rat) :
    let laid := n.layOut m
    (∀ a ∈ laid.exitAnchors,
      a.x = laid.rect.max.x ∧ laid.rect.min.y < a.y ∧ a.y < laid.rect.max.y) ∧
    (Block.hasRows laid.kind = true →
      laid.exitAnchors.length = laid.body.exits.length ∧
      laid.exitAnchors.IsChain (fun a b => b.y = a.y + exitRowHeight) ∧
      ∀ a ∈ laid.exitAnchors, laid.rect.Holds a exitRowHeight) ∧
    ∀ v : Viewport Rat, List.Forall₂
      (fun mark line => ∃ p, laid.HoldsLine p ∧
        mark = .text (v.toScreen p) .leftCenter line (Block.bodySize * v.scale) (.gray 220))
      (Block.bodyText v m laid) (laid.textLines m) := by
  intro laid
  refine ⟨fun a ha => ⟨x_of_mem_exitAnchors ha, exit_between m ha⟩, fun hrows => ?_, fun v => ?_⟩
  · refine ⟨?_, isChain_exitAnchors hrows, fun a ha => holds_exit m hrows ha⟩
    rw [length_exitAnchors, Body.length_exits]
  · rw [Block.bodyText, bodyLines_eq, List.forall₂_map_left_iff, List.forall₂_iff_get]
    refine ⟨List.length_mapIdx, fun i hi hline => ?_⟩
    refine ⟨laid.lineStart i, holdsLine_lineStart (n := n) hline, ?_⟩
    simp only [List.get_eq_getElem, List.getElem_mapIdx]

/-- From 44 on, below the header, two lines of 16 behind the padding, then two rows of 22. -/
example :
    let entries : List ChoiceEntry := [{ text := "Left" }, { text := "Right" }]
    let n : Node Rat := {
      id := "fork", x := 10, y := 20, height := 0, textBlock := 0
      body := .choice { prompt := "Left or right?", entries } }
    let laid := n.layOut (.fixed 20)
    laid.bodyLines (.fixed 20) = [(⟨18, 60⟩, "Left or"), (⟨18, 76⟩, "right?")] ∧
      laid.exitAnchors = [⟨210, 95⟩, ⟨210, 117⟩] ∧ laid.rect.max = ⟨210, 136⟩ := by
  decide +kernel

end Node

end EventGraph
